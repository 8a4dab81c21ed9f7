import CodeAudit.Analyzer
import CodeAudit.Log
import CodeAudit.Memo
import CodeAudit.Presentation
import CodeAudit.Settings.Basic

/-!
Audited functions. Their source is analyzed when they are wrapped. A call looks first among the remembered results;
only a call that has to run the function shows and logs its findings. What the log does not take makes no difference
to the call.
-/
namespace CodeAudit

/-- What is said to everyone who runs an audited function. -/
def advisory : String :=
  "NOTICE: This function was generated or assisted by an AI. " ++
    "Review your outputs thoroughly and do not use in production."

/-- An audited function with its findings, its options and the results that it remembers. -/
structure Audited (α β : Type) where
  name : String
  source : String
  bundle : Bundle
  options : AuditOptions
  thresholds : Thresholds
  memo : Memo α β

/-- The files and the text shown so far, which a call may add to. -/
structure Surroundings where
  files : Files
  shown : List Char := []

/-- A function that may depend on how often it has run; it knows its state `σ`. -/
abbrev Body (σ α β : Type) := σ → α → β × σ

namespace Audited

variable {α β σ : Type} [BEq α]

/-- Analyzes a source and makes an audited function of it. -/
def wrap (settings : Settings) (name source : String) : Except Failure (Audited α β) :=
  (analyze settings.thresholds source).map fun a =>
    { name, source, bundle := .of a .current, options := settings.audit, thresholds := settings.thresholds
      memo := { capacity := settings.audit.cacheCapacity } }

/-- The findings that a call shows: those of the source as it is now, if they are wanted anew and can be had. -/
def currentBundle (f : Audited α β) : Bundle :=
  if f.options.reanalyze then
    match analyze f.thresholds f.source with
    | .ok a => .of a .current
    | .error _ => f.bundle
  else f.bundle

/-- Adds a line to the log of a function, if it has one that takes it. -/
def log (f : Audited α β) (b : Bundle) (fs : Files) : Files :=
  match f.options.logFile with
  | none => fs
  | some path => (Log.append fs path (logLine f.name b.complexity b.report)).toOption.getD fs

/-- What happens before the function runs. -/
def announce (colors : Bool) (f : Audited α β) (s : Surroundings) : Surroundings :=
  let b := f.currentBundle
  { files := f.log b s.files
    shown := s.shown ++ if f.options.verbose then b.renderHighlighted colors f.name else [] }

/-- The outcome of a call: the result, and everything that may have changed. -/
structure Outcome (σ α β : Type) where
  result : β
  audited : Audited α β
  state : σ
  surroundings : Surroundings

/-- Calls an audited function. -/
def call (colors : Bool) (body : Body σ α β) (f : Audited α β) (state : σ) (s : Surroundings) (a : α) :
    Outcome σ α β :=
  match f.memo.find? a with
  | some (b, memo) => { result := b, audited := { f with memo }, state, surroundings := s }
  | none =>
    let s := f.announce colors s
    let (b, state) := body state a
    { result := b, audited := { f with memo := f.memo.insert a b }, state, surroundings := s }

/-- The number of results that are remembered. -/
def cached (f : Audited α β) : Nat :=
  f.memo.size

def clear (f : Audited α β) : Audited α β :=
  { f with memo := f.memo.clear }

end Audited

end CodeAudit
