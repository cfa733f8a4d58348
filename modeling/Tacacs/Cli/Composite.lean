import Tacacs.Cli.Accounter

/-!
# `cmd/tacacs-cli/aaa/composite.go` — one handler from three parts

Any of the parts may be missing. All of them share one state `σ`, which stands for whatever each
of them keeps or writes to.
-/

set_option autoImplicit false

namespace Tacacs
namespace Cli

open GoSem
open Server (AuthenContext AuthenDecision AuthenContinue AuthorContext AuthorDecision AcctContext
  AcctDecision Handler)

abbrev Authenticator (σ : Type) :=
  AuthenContext → Option AuthenContinue → σ → Returns AuthenDecision × σ

abbrev Authorizer (σ : Type) := AuthorContext → σ → Returns AuthorDecision × σ

structure CompositeHandler (σ : Type) where
  auth : Option (Authenticator σ) := none
  az : Option (Authorizer σ) := none
  ac : Option (Accounter σ) := none

namespace CompositeHandler

variable {σ : Type} (h : CompositeHandler σ)

def authenticate : Authenticator σ := fun ac cont w =>
  match h.auth with
  | none =>
      (({ status := authenStatusError, serverMsg := lit "no authenticator configured" },
        some (.other [.text "aaa: no authenticator configured"])), w)
  | some auth => auth ac cont w

def authorize : Authorizer σ := fun ac w =>
  match h.az with
  | none =>
      (({ status := authorStatusFail, serverMsg := lit "no authorizer configured" }, none), w)
  | some az => az ac w

def account : Accounter σ := fun ac w =>
  match h.ac with
  | none => (({ status := acctStatusSuccess }, none), w)
  | some acct => acct ac w

/-- What the server looks at: `if err != nil` comes before the decision. -/
def looked {α : Type} (r : Returns α × σ) : Except GoError α × σ :=
  match r.1.2 with
  | some err => (.error err, r.2)
  | none => (.ok r.1.1, r.2)

theorem looked_snd {α : Type} (r : Returns α × σ) : (looked r).2 = r.2 := by
  unfold looked
  split <;> rfl

def handler : Handler σ where
  authenticate ac cont w := looked (h.authenticate ac cont w)
  authorize ac w := looked (h.authorize ac w)
  account ac w := looked (h.account ac w)

end CompositeHandler

end Cli
end Tacacs
