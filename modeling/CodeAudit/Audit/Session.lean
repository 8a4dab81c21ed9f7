import CodeAudit.Audit.Basic

/-!
Several audited functions that share their files. Functions are known by their numbers, which also go to those that
could not be wrapped.
-/
namespace CodeAudit

/-- An audited function with its body and the state of that. -/
structure Handle (σ α β : Type) where
  audited : Audited α β
  state : σ

structure Session (σ α β : Type) where
  handles : List (Option (Handle σ α β)) := []
  files : Files := {}

/-- What a call gives: its result, and what it showed. -/
structure Reply (β : Type) where
  result : β
  shown : List Char

namespace Session

variable {σ α β : Type} [BEq α]

def handle? (s : Session σ α β) (i : Nat) : Option (Handle σ α β) :=
  s.handles[i]?.join

/-- Wraps one more function. -/
def wrap (s : Session σ α β) (settings : Settings) (name source : String) (state : σ) :
    Except Failure (Audited α β) × Session σ α β :=
  let wrapped := Audited.wrap settings name source
  (wrapped, { s with handles := s.handles ++ [wrapped.toOption.map (⟨·, state⟩)] })

/-- Calls a function. -/
def call (colors : Bool) (body : Body σ α β) (s : Session σ α β) (i : Nat) (a : α) :
    Option (Reply β × Session σ α β) :=
  (s.handle? i).map fun h =>
    let out := h.audited.call colors body h.state { files := s.files } a
    (⟨out.result, out.surroundings.shown⟩,
      { handles := s.handles.set i (some ⟨out.audited, out.state⟩), files := out.surroundings.files })

/-- Lets a function forget its results. -/
def clear (s : Session σ α β) (i : Nat) : Session σ α β :=
  match s.handle? i with
  | some h => { s with handles := s.handles.set i (some { h with audited := h.audited.clear }) }
  | none => s

end Session

end CodeAudit
