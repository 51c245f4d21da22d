import AjaxCallback.Inspect
import AjaxCallback.Main
import AjaxCallback.Proofs.BaseUrl
import AjaxCallback.Proofs.ComponentTree
import AjaxCallback.Proofs.ComposeCommand
import AjaxCallback.Proofs.DecoratedTemplate
import AjaxCallback.Proofs.FirstContributions
import AjaxCallback.Proofs.FirstOwner
import AjaxCallback.Proofs.FunctionBody
import AjaxCallback.Proofs.GuardAndChannel
import AjaxCallback.Proofs.HeadCommand
import AjaxCallback.Proofs.Precedence
import AjaxCallback.Proofs.RequestBuild
import AjaxCallback.Proofs.RequestSchema
import AjaxCallback.Proofs.ThrottledScript
import AjaxCallback.Proofs.Throttling
import AjaxCallback.Proofs.WellBracketed
