import CodeAudit.Json.Codec
import CodeAudit.Platform
import CodeAudit.Settings.Basic

/-!
The JSON forms of findings, facts and settings. Settings that are missing have their defaults; of anything else
nothing may be missing.
-/
namespace CodeAudit.Json

/-- A number that fits into a machine word. -/
def wordCodec : Codec Nat :=
  naturalCodec 64 "usize"

def textCodec : Codec String :=
  stringCodec "a string"

/-- A path is written as it is spelled. -/
def pathCodec : Codec String :=
  stringCodec "path string"

def patternCodec : Codec Pattern :=
  nameCodec (Pattern.all.map Pattern.name) Pattern.name Pattern.ofName?

def patternSetCodec : Codec PatternSet :=
  listCodec patternCodec PatternSet.toList PatternSet.ofList

def reportCodec : Codec Report :=
  recordCodec "AntiPatternReport"
    (.cons "detected_patterns" patternSetCodec none <| .cons "max_nesting_depth" wordCodec none <|
      .cons "conditional_depth" wordCodec none .nil)
    (fun r => (r.patterns, r.maxNestingDepth, r.conditionalDepth, ()))
    (fun (p, n, d, ()) => ⟨p, n, d⟩)

def analysisCodec : Codec Analysis :=
  recordCodec "Analysis"
    (.cons "complexity" wordCodec none <| .cons "anti_patterns" reportCodec none .nil)
    (fun a => (a.complexity, a.report, ()))
    (fun (c, r, ()) => ⟨c, r⟩)

def platformCodec : Codec Platform :=
  recordCodec "CompatibilityRecord"
    (.cons "runtime_version" textCodec none <| .cons "runtime_implementation" textCodec none <|
      .cons "platform" textCodec none <| .cons "arch" textCodec none <|
      .cons "max_int_bits" (naturalCodec 32 "u32") none <| .cons "default_encoding" textCodec none .nil)
    (fun p => (p.version, p.implementation, p.system, p.architecture, p.integerBits, p.encoding, ()))
    (fun (v, i, s, a, b, e, ()) => ⟨v, i, s, a, b, e⟩)

def bundleCodec : Codec Bundle :=
  recordCodec "AnalysisBundle"
    (.cons "complexity" wordCodec none <| .cons "anti_patterns" reportCodec none <|
      .cons "system" platformCodec none .nil)
    (fun b => (b.complexity, b.report, b.platform, ()))
    (fun (c, r, p, ()) => ⟨c, r, p⟩)

def thresholdsCodec : Codec Thresholds :=
  let default : Thresholds := {}
  recordCodec "Thresholds"
    (.cons "max_nesting_depth" wordCodec (some default.maxNestingDepth) <|
      .cons "max_conditionals" wordCodec (some default.maxConditionals) <|
      .cons "max_line_length" wordCodec (some default.maxLineLength) .nil)
    (fun t => (t.maxNestingDepth, t.maxConditionals, t.maxLineLength, ()))
    (fun (n, c, l, ()) => ⟨n, c, l⟩)

def auditOptionsCodec : Codec AuditOptions :=
  let default : AuditOptions := {}
  recordCodec "AuditConfig"
    (.cons "verbose" boolCodec (some default.verbose) <|
      .cons "log_file" (optionCodec pathCodec) (some default.logFile) <|
      .cons "cache_capacity" wordCodec (some default.cacheCapacity) <|
      .cons "reanalyze" boolCodec (some default.reanalyze) .nil)
    (fun o => (o.verbose, o.logFile, o.cacheCapacity, o.reanalyze, ()))
    (fun (v, f, c, r, ()) => ⟨v, f, c, r⟩)

def settingsCodec : Codec Settings :=
  recordCodec "Config"
    (.cons "audit" auditOptionsCodec (some {}) <| .cons "thresholds" thresholdsCodec (some {}) .nil)
    (fun s => (s.audit, s.thresholds, ()))
    (fun (a, t, ()) => ⟨a, t⟩)

end CodeAudit.Json
