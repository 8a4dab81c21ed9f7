import CodeAudit.Toml.Number

/-!
Dates and times. Only their form is checked; nothing is kept of them.
-/
namespace CodeAudit.Toml

open Reader

/-- A number of exactly so many digits, if it is in range. -/
def number (count least most : Nat) : Reader Nat :=
  checked (exactCount count Char.isDigit) fun ds =>
    let n := valueOf 10 ds
    if least ≤ n && n ≤ most then .ok n else .error .outOfRange

def isLeap (year : Nat) : Bool :=
  year % 4 = 0 && (year % 100 ≠ 0 || year % 400 = 0)

def daysIn (year month : Nat) : Nat :=
  if month = 2 then if isLeap year then 29 else 28
  else if month = 4 || month = 6 || month = 9 || month = 11 then 30
  else 31

def date : Reader Unit := fun c => do
  let (year, c) ← number 4 0 9999 c
  let (_, c) ← char '-' c
  hard (fun c => do
    let (month, c) ← number 2 1 12 c
    let (_, c) ← char '-' c
    let (_, c) ← checked (number 2 1 31) (fun day =>
      if day ≤ daysIn year month then .ok () else .error .outOfRange) c
    return ((), c)) c

def fractionOfSecond : Reader Unit := fun c => do
  let (_, c) ← char '.' c
  let (_, c) ← many1 Char.isDigit c
  return ((), c)

/-- A minute may have a sixty-first second. -/
def time : Reader Unit := fun c => do
  let (_, c) ← number 2 0 23 c
  let (_, c) ← char ':' c
  hard (fun c => do
    let (_, c) ← number 2 0 59 c
    let (_, c) ← char ':' c
    let (_, c) ← number 2 0 60 c
    let (_, c) ← optional fractionOfSecond c
    return ((), c)) c

/-- The distance from universal time. -/
def timeOffset : Reader Unit :=
  labelled "time offset" <| orElse
    (fun c => do
      let (_, c) ← one (fun x => x = 'Z' || x = 'z') c
      return ((), c))
    fun c => do
      let (_, c) ← one (fun x => x = '+' || x = '-') c
      hard (fun c => do
        let (_, c) ← number 2 0 23 c
        let (_, c) ← char ':' c
        let (_, c) ← number 2 0 59 c
        return ((), c)) c

def timeOfDate : Reader Unit := fun c => do
  let (_, c) ← one (fun x => x = 'T' || x = 't' || x = ' ') c
  let (_, c) ← time c
  let (_, c) ← optional timeOffset c
  return ((), c)

/-- A date, a time, or both. -/
def moment : Reader Unit :=
  orElse
    (labelled "date-time" fun c => do
      let (_, c) ← date c
      let (_, c) ← optional timeOfDate c
      return ((), c))
    (labelled "time" time)

end CodeAudit.Toml
