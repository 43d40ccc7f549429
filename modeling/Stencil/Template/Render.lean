import Stencil.Context.Basic
import Stencil.Template.Scanner

/-!
# Rendering

A template is rendered against a context by writing its literals as they are and its references as the texts
of what they lead to. A reference that leads nowhere is rendered as nothing.
-/

namespace Stencil

variable {γ : Type} [Context γ]

/-- The text of one node. -/
def Node.render (context : γ) : Node → String
  | .text literal => literal
  | .reference path => ((resolve? context path).map Found.text).getD ""

/-- The text of a template. -/
def Template.render (t : Template) (context : γ) : String :=
  String.join (t.nodes.map (Node.render context))

/-- The text of a template that is given in source form. -/
def evaluate (source : String) (context : γ) : String :=
  (Template.parse source).render context

end Stencil
