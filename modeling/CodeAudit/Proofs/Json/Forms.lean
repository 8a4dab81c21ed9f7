import CodeAudit.Json.Forms
import CodeAudit.Proofs.Json.Record

/-! Findings, facts and settings are what their JSON forms say. -/
namespace CodeAudit

/-! ### Numbers that have room -/

def Report.Fits (r : Report) : Prop :=
  r.maxNestingDepth < 2 ^ 64 ∧ r.conditionalDepth < 2 ^ 64

def Analysis.Fits (a : Analysis) : Prop :=
  a.complexity < 2 ^ 64 ∧ a.report.Fits

def Platform.Fits (p : Platform) : Prop :=
  p.integerBits < 2 ^ 32

def Bundle.Fits (b : Bundle) : Prop :=
  b.complexity < 2 ^ 64 ∧ b.report.Fits ∧ b.platform.Fits

def Thresholds.Fits (t : Thresholds) : Prop :=
  t.maxNestingDepth < 2 ^ 64 ∧ t.maxConditionals < 2 ^ 64 ∧ t.maxLineLength < 2 ^ 64

def AuditOptions.Fits (o : AuditOptions) : Prop :=
  o.cacheCapacity < 2 ^ 64

def Settings.Fits (s : Settings) : Prop :=
  s.audit.Fits ∧ s.thresholds.Fits

/-! ### Paths that are replaced -/

def AuditOptions.loggingTo (file : Option String) (o : AuditOptions) : AuditOptions :=
  { o with logFile := file }

def Settings.loggingTo (file : Option String) (s : Settings) : Settings :=
  { s with audit := s.audit.loggingTo file }

theorem Settings.beq_loggingTo_iff (s s' : Settings) : s == s' ↔
    s.audit.logFile.map Path.components = s'.audit.logFile.map Path.components ∧
      s.loggingTo s'.audit.logFile = s' := by
  rw [Settings.beq_iff, AuditOptions.beq_iff, and_assoc, loggingTo, ← mk.injEq]
  rfl

namespace Json

variable {α : Type}

/-- A value that fits is read from its own text, and whatever a text says fits and is written as a text that says it
too. -/
structure Codec.Faithful (codec : Codec α) (fits : α → Prop) : Prop where
  decode_write {a : α} (fit : fits a) : codec.decode (codec.write a) = .ok a
  decode_decoded {t : List Char} {a : α} (decoded : codec.decode t = .ok a) :
    fits a ∧ codec.decode (codec.write a) = .ok a

/-- Two texts say the same exactly if what is read from them is written in the same way. -/
structure Codec.Canonical [BEq α] (codec : Codec α) (fits : α → Prop) : Prop extends codec.Faithful fits where
  beq_iff_write_eq {t t' : List Char} {a a' : α} (decoded : codec.decode t = .ok a)
    (decoded' : codec.decode t' = .ok a') : a == a' ↔ codec.write a = codec.write a'

/-- Of a path in a value only the components count. Two texts say the same if what is read from them is written in the
same way, and exactly if the paths have the same components and all else is written in the same way. -/
structure Codec.CanonicalUpToPath [BEq α] (codec : Codec α) (fits : α → Prop) (path : α → Option String)
    (withPath : Option String → α → α) : Prop extends codec.Faithful fits where
  beq_of_write_eq {t t' : List Char} {a a' : α} (decoded : codec.decode t = .ok a)
    (decoded' : codec.decode t' = .ok a') (same : codec.write a = codec.write a') : a == a'
  beq_iff_write_eq {t t' : List Char} {a a' : α} (decoded : codec.decode t = .ok a)
    (decoded' : codec.decode t' = .ok a') : a == a' ↔
      (path a).map Path.components = (path a').map Path.components ∧
        codec.write (withPath (path a') a) = codec.write a'

namespace Codec.Lawful

variable {codec : Codec α} {fits fits' : α → Prop}

theorem congr (lawful : codec.Lawful fits) (same : ∀ a, fits a ↔ fits' a) : codec.Lawful fits' where
  reads fit := lawful.reads ((same _).mpr fit)
  fits_of_read read := (same _).mp (lawful.fits_of_read read)

theorem decode_write (lawful : codec.Lawful fits) {a : α} (fit : fits a) : codec.decode (codec.write a) = .ok a := by
  have read := lawful.reads fit {} [] stops_nil
  rw [List.append_nil] at read
  unfold decode Cursor.start
  rw [read]
  rfl

theorem fits_of_decode (lawful : codec.Lawful fits) {t : List Char} {a : α} (decoded : codec.decode t = .ok a) :
    fits a := by
  obtain ⟨⟨a', c⟩, read, finished⟩ := bind_eq_ok.mp decoded
  dsimp only at finished
  split at finished
  · cases finished
    exact lawful.fits_of_read read
  · cases finished

theorem faithful (lawful : codec.Lawful fits) : codec.Faithful fits where
  decode_write := lawful.decode_write
  decode_decoded decoded := ⟨lawful.fits_of_decode decoded, lawful.decode_write (lawful.fits_of_decode decoded)⟩

theorem write_inj (lawful : codec.Lawful fits) {a a' : α} (fit : fits a) (fit' : fits a') :
    codec.write a = codec.write a' ↔ a = a' := by
  refine ⟨fun same => ?_, congrArg codec.write⟩
  have read := lawful.decode_write fit
  rw [same, lawful.decode_write fit'] at read
  exact (Except.ok.inj read).symm

theorem canonical [BEq α] [LawfulBEq α] (lawful : codec.Lawful fits) : codec.Canonical fits where
  toFaithful := lawful.faithful
  beq_iff_write_eq decoded decoded' := by
    rw [lawful.write_inj (lawful.fits_of_decode decoded) (lawful.fits_of_decode decoded'), beq_iff_eq]

/-- Values that are compared by their paths' components and by all else. -/
theorem canonicalUpToPath [BEq α] (lawful : codec.Lawful fits) {path : α → Option String}
    {withPath : Option String → α → α} (own : ∀ a, withPath (path a) a = a)
    (fits_withPath : ∀ p a, fits a → fits (withPath p a))
    (beq_iff : ∀ a a', a == a' ↔
      (path a).map Path.components = (path a').map Path.components ∧ withPath (path a') a = a') :
    codec.CanonicalUpToPath fits path withPath where
  toFaithful := lawful.faithful
  beq_of_write_eq decoded decoded' same := by
    rw [lawful.write_inj (lawful.fits_of_decode decoded) (lawful.fits_of_decode decoded')] at same
    subst same
    exact (beq_iff _ _).mpr ⟨rfl, own _⟩
  beq_iff_write_eq {_ _ a a'} decoded decoded' := by
    have fit := fits_withPath (path a') a (lawful.fits_of_decode decoded)
    rw [beq_iff, lawful.write_inj fit (lawful.fits_of_decode decoded')]

end Codec.Lawful

/-! ### Each of the forms -/

theorem wordCodec_lawful : wordCodec.Lawful (· < 2 ^ 64) :=
  naturalCodec_lawful "usize" (Nat.le_refl 64)

theorem patternCodec_lawful : patternCodec.Lawful fun _ => True :=
  nameCodec_lawful fun p => by cases p <;> decide

theorem patternSetCodec_lawful : patternSetCodec.Lawful fun _ => True := by
  refine (listCodec_lawful patternCodec_lawful PatternSet.ofList_toList fun as a member => ?_).congr fun s => ?_
  · simpa using member
  · simp

theorem textCodec_lawful : textCodec.Lawful fun _ => True :=
  stringCodec_lawful "a string"

theorem reportCodec_lawful : reportCodec.Lawful Report.Fits :=
  recordCodec_lawful
    (.required patternSetCodec_lawful (by decide) <| .required wordCodec_lawful (by decide) <|
      .required wordCodec_lawful (by decide) .nil)
    (fun _ => rfl) (fun _ => rfl) fun _ => by simp [Row.All, Report.Fits]

theorem analysisCodec_lawful : analysisCodec.Lawful Analysis.Fits :=
  recordCodec_lawful
    (.required wordCodec_lawful (by decide) <| .required reportCodec_lawful (by decide) .nil)
    (fun _ => rfl) (fun _ => rfl) fun _ => by simp [Row.All, Analysis.Fits]

theorem platformCodec_lawful : platformCodec.Lawful Platform.Fits :=
  recordCodec_lawful
    (.required textCodec_lawful (by decide) <| .required textCodec_lawful (by decide) <|
      .required textCodec_lawful (by decide) <| .required textCodec_lawful (by decide) <|
      .required (naturalCodec_lawful "u32" (by decide)) (by decide) <| .required textCodec_lawful (by decide) .nil)
    (fun _ => rfl) (fun _ => rfl) fun _ => by simp [Row.All, Platform.Fits]

theorem bundleCodec_lawful : bundleCodec.Lawful Bundle.Fits :=
  recordCodec_lawful
    (.required wordCodec_lawful (by decide) <| .required reportCodec_lawful (by decide) <|
      .required platformCodec_lawful (by decide) .nil)
    (fun _ => rfl) (fun _ => rfl) fun _ => by simp [Row.All, Bundle.Fits]

theorem thresholdsCodec_lawful : thresholdsCodec.Lawful Thresholds.Fits := by
  unfold thresholdsCodec
  exact recordCodec_lawful
    (.optional wordCodec_lawful (by decide) (by decide) <| .optional wordCodec_lawful (by decide) (by decide) <|
      .optional wordCodec_lawful (by decide) (by decide) .nil)
    (fun _ => rfl) (fun _ => rfl) fun _ => by simp [Row.All, Thresholds.Fits]

theorem pathCodec_lawful : pathCodec.Lawful fun _ => True :=
  stringCodec_lawful "path string"

theorem logFileCodec_lawful : (optionCodec pathCodec).Lawful fun _ => True :=
  (optionCodec_lawful pathCodec_lawful fun _ => by simp [pathCodec, stringCodec]).congr fun _ => by simp

theorem auditOptionsCodec_lawful : auditOptionsCodec.Lawful AuditOptions.Fits := by
  unfold auditOptionsCodec
  exact recordCodec_lawful
    (.optional boolCodec_lawful trivial (by decide) <| .optional logFileCodec_lawful trivial (by decide) <|
      .optional wordCodec_lawful (by decide) (by decide) <| .optional boolCodec_lawful trivial (by decide) .nil)
    (fun _ => rfl) (fun _ => rfl) fun _ => by simp [Row.All, AuditOptions.Fits]

/-- What stands for missing settings fits. -/
theorem settingsCodec_lawful : settingsCodec.Lawful Settings.Fits :=
  recordCodec_lawful
    (.optional auditOptionsCodec_lawful (by unfold AuditOptions.Fits; decide) (by decide) <|
      .optional thresholdsCodec_lawful (by unfold Thresholds.Fits; decide) (by decide) .nil)
    (fun _ => rfl) (fun _ => rfl) fun _ => by simp [Row.All, Settings.Fits]

/-- Every form of findings, facts and settings says what it was written from, as long as its numbers have room. Whatever
text is taken for such a form, be its members in another order, among others, given as an array or left out where that
is allowed, its value is written as a text that says the same, and texts with the same value are those whose values are
written alike. Only the path in options may be spelled in several ways: texts with the same options are those whose
paths have the same components and whose values are otherwise written alike. -/
theorem forms_canonical :
    patternCodec.Canonical (fun _ => True) ∧ reportCodec.Canonical Report.Fits ∧
      analysisCodec.Canonical Analysis.Fits ∧ platformCodec.Canonical Platform.Fits ∧
      bundleCodec.Canonical Bundle.Fits ∧ thresholdsCodec.Canonical Thresholds.Fits ∧
      auditOptionsCodec.CanonicalUpToPath AuditOptions.Fits AuditOptions.logFile AuditOptions.loggingTo ∧
      settingsCodec.CanonicalUpToPath Settings.Fits (·.audit.logFile) Settings.loggingTo :=
  ⟨patternCodec_lawful.canonical, reportCodec_lawful.canonical, analysisCodec_lawful.canonical,
    platformCodec_lawful.canonical, bundleCodec_lawful.canonical, thresholdsCodec_lawful.canonical,
    auditOptionsCodec_lawful.canonicalUpToPath (fun _ => rfl) (fun _ _ fit => fit) fun _ _ => AuditOptions.beq_iff,
    settingsCodec_lawful.canonicalUpToPath (fun _ => rfl) (fun _ _ fit => fit) Settings.beq_loggingTo_iff⟩

/-- Settings as an array, and as an object in another order and with an escape and a member that is not asked for. -/
theorem forms_of_settings :
    let s : Settings := { audit := { verbose := true, logFile := some "a\n\"" }, thresholds := { maxLineLength := 80 } }
    let array := "[[true,\"a\\n\\\"\"],[3,5,80]]".toList
    let object := "\x7b\"x\":[1e9],\"thresholds\":\x7b\"max_line_length\":80\x7d,".toList ++
      "\"audit\":\x7b\"log_file\":\"\\u0061\\n\\\"\",\"verbose\":true\x7d\x7d".toList
    settingsCodec.decode array = .ok s ∧ settingsCodec.decode object = .ok s ∧ s.Fits ∧
      settingsCodec.decode (settingsCodec.write s) = .ok s := by
  intro s array object
  have first : settingsCodec.decode array = .ok s := by decide +kernel
  have second : settingsCodec.decode object = .ok s := by decide +kernel
  obtain ⟨-, -, -, -, -, -, -, settings⟩ := forms_canonical
  obtain ⟨fits, again⟩ := settings.decode_decoded first
  exact ⟨first, second, fits, again⟩

/-- Two spellings of one path, which are kept as they are. -/
theorem forms_of_two_spellings :
    let o : AuditOptions := { logFile := some "a//b" }
    let o' : AuditOptions := { logFile := some "a/b" }
    auditOptionsCodec.decode "\x7b\"log_file\":\"a//b\"\x7d".toList = .ok o ∧
      auditOptionsCodec.decode "\x7b\"log_file\":\"a/b\"\x7d".toList = .ok o' ∧
      o == o' ∧ auditOptionsCodec.write o ≠ auditOptionsCodec.write o' := by
  decide +kernel

end Json

end CodeAudit
