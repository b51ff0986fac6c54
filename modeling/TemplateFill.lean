import TemplateFill.Main
import TemplateFill.Proofs.Config.Discovery
import TemplateFill.Proofs.Config.Stored
import TemplateFill.Proofs.Host.Describe
import TemplateFill.Proofs.Host.GivenValues
import TemplateFill.Proofs.Host.LineFill
import TemplateFill.Proofs.Host.Prefill
import TemplateFill.Proofs.Journal.Kept
import TemplateFill.Proofs.Resolver.Waiting
import TemplateFill.Proofs.Session.Confirmation
import TemplateFill.Proofs.Session.Permission
import TemplateFill.Proofs.Session.Reordering
import TemplateFill.Proofs.Session.Turning
import TemplateFill.Proofs.Template.Composition
import TemplateFill.Proofs.Template.Conversion
import TemplateFill.Proofs.Template.Grammar
import TemplateFill.Proofs.Template.Redeclaration
import TemplateFill.Proofs.Template.Staging
import TemplateFill.Proofs.Template.StoredYaml
