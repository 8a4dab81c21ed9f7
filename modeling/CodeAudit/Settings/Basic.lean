import CodeAudit.Files.Path
import CodeAudit.Thresholds

/-!
What can be set from outside: how audited functions report and remember, and the limits for findings.
-/
namespace CodeAudit

/-- How an audited function behaves: whether it shows its findings, the file to which it writes them, for how many
arguments it remembers results, and whether it looks at its source anew. -/
structure AuditOptions where
  verbose : Bool := false
  logFile : Option String := none
  cacheCapacity : Nat := 128
  reanalyze : Bool := false
deriving DecidableEq

/-- Options are compared member by member, and the paths of their files by the components. So `==` does not tell two
spellings of a path apart, while `=` does. -/
instance : BEq AuditOptions where
  beq o o' := o.verbose == o'.verbose && o.logFile.map Path.components == o'.logFile.map Path.components &&
    o.cacheCapacity == o'.cacheCapacity && o.reanalyze == o'.reanalyze

structure Settings where
  audit : AuditOptions := {}
  thresholds : Thresholds := {}
deriving DecidableEq, BEq

theorem AuditOptions.beq_iff {o o' : AuditOptions} : o == o' ↔
    o.logFile.map Path.components = o'.logFile.map Path.components ∧ { o with logFile := o'.logFile } = o' := by
  obtain ⟨verbose, file, capacity, anew⟩ := o
  obtain ⟨verbose', file', capacity', anew'⟩ := o'
  have compared : ((⟨verbose, file, capacity, anew⟩ : AuditOptions) == ⟨verbose', file', capacity', anew'⟩) =
      (verbose == verbose' && file.map Path.components == file'.map Path.components && capacity == capacity' &&
        anew == anew') := rfl
  simp only [compared, Bool.and_eq_true, beq_iff_eq, mk.injEq, true_and, and_assoc]
  exact and_left_comm

theorem Settings.beq_iff {s s' : Settings} : s == s' ↔ s.audit == s'.audit ∧ s.thresholds = s'.thresholds := by
  obtain ⟨audit, thresholds⟩ := s
  obtain ⟨audit', thresholds'⟩ := s'
  have compared : ((⟨audit, thresholds⟩ : Settings) == ⟨audit', thresholds'⟩) =
      (audit == audit' && thresholds == thresholds') := rfl
  rw [compared, Bool.and_eq_true]
  exact and_congr_right fun _ => beq_iff_eq

end CodeAudit
