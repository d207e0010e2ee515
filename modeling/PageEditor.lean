import PageEditor.Editing.Edit
import PageEditor.Generate.Module
import PageEditor.Options.Reader
import PageEditor.Proofs.AtomicEdits
import PageEditor.Proofs.MarkupReader
import PageEditor.Proofs.ReferenceFindings
import PageEditor.Proofs.SavedPages
import PageEditor.Proofs.LimitedHistory
import PageEditor.Proofs.ParentLinks
import PageEditor.Proofs.ModuleText
import PageEditor.Proofs.StrictGeneration
import PageEditor.Proofs.BoundNames
import PageEditor.Proofs.SearchOrder
import PageEditor.Proofs.EditorData
import PageEditor.Proofs.TemplateReading
import PageEditor.Proofs.ModuleLines
import PageEditor.Proofs.ImportedNames
import PageEditor.Proofs.DroppedParts
import PageEditor.Proofs.ScriptStrings
import PageEditor.Proofs.WrittenOptions
import PageEditor.Proofs.ComposedUpdates
import PageEditor.Proofs.QuotedAttributes
import PageEditor.Proofs.ActionShapes
import PageEditor.Proofs.WithdrawnAdditions
import PageEditor.Proofs.ComponentSchema
import PageEditor.Proofs.StateNames
import PageEditor.Proofs.ComposedPages
import PageEditor.Proofs.KeptWindow
import PageEditor.Proofs.AttributeNames
import PageEditor.Proofs.WalkOrder
import PageEditor.Proofs.FindingOrder
import PageEditor.Proofs.ComponentName
