import CodeAudit.Files.Basic

/-! Putting text behind what files hold. It changes one file and nothing else: paths lead where they led, and what could
be opened before can be opened after. -/
namespace CodeAudit

/-- What stands in a place once the given texts were put there one behind the other. -/
def Entry.extended : Option Entry → (texts : List (List Char)) → Option Entry
  | e, [] => e
  | none, texts => some (.file (some texts.flatten))
  | some .directory, _ => some .directory
  | some (.file old), texts => some (.file (old.map (· ++ texts.flatten)))

@[simp] theorem Entry.extended_nil (e : Option Entry) : Entry.extended e [] = e := by
  rcases e with _ | _ | _ <;> rfl

theorem Entry.extended_append (e : Option Entry) (texts more : List (List Char)) :
    Entry.extended e (texts ++ more) = Entry.extended (Entry.extended e texts) more := by
  cases texts with
  | nil => rw [List.nil_append, extended_nil]
  | cons t texts =>
    cases more with
    | nil => rw [List.append_nil, extended_nil]
    | cons u more =>
      rcases e with _ | _ | old
      · simp [extended]
      · rfl
      · cases old <;> simp [extended]

theorem Entry.extended_eq_directory {e : Option Entry} {texts : List (List Char)} :
    Entry.extended e texts = some .directory ↔ e = some .directory := by
  cases texts with
  | nil => rw [extended_nil]
  | cons t texts => rcases e with _ | _ | _ <;> simp [extended]

namespace Files

variable {fs fs' : Files} {place : Place}

/-- Everything above a place is a directory. -/
def Rooted (fs : Files) (place : Place) : Prop :=
  ∀ above, above <+: place → above ≠ place → fs.get? above = some .directory

theorem rooted_nil (fs : Files) : fs.Rooted [] := by
  intro above shorter other
  exact absurd (List.prefix_nil.mp shorter) other

/-- A step fails, or it leads from a directory to itself, to the one above or to something in it. -/
theorem step_cases (fs : Files) (place : Place) (name : String) :
    (∃ fault, fs.step place name = .error fault) ∨ (fs.get? place = some .directory ∧
      (fs.step place name = .ok place ∨ fs.step place name = .ok place.dropLast ∨
        fs.step place name = .ok (place ++ [name]))) := by
  unfold step
  split
  · exact .inl ⟨_, rfl⟩
  · exact .inl ⟨_, rfl⟩
  · next directory =>
    split
    · exact .inr ⟨directory, .inl rfl⟩
    split
    · exact .inr ⟨directory, .inr (.inl rfl)⟩
    split
    · exact .inl ⟨_, rfl⟩
    · exact .inr ⟨directory, .inr (.inr rfl)⟩

theorem step_rooted {name : String} {next : Place} (rooted : fs.Rooted place)
    (stepped : fs.step place name = .ok next) : fs.Rooted next := by
  obtain ⟨fault, failed⟩ | ⟨directory, stays | up | down⟩ := step_cases fs place name
  · rw [failed] at stepped
    contradiction
  · obtain rfl := Except.ok.inj (stays.symm.trans stepped)
    exact rooted
  · obtain rfl := Except.ok.inj (up.symm.trans stepped)
    intro above shorter other
    refine rooted above (shorter.trans (List.dropLast_prefix place)) ?_
    rintro rfl
    have shrunk := shorter.length_le
    rw [List.length_dropLast] at shrunk
    have empty : above = [] := List.length_eq_zero_iff.mp (by omega)
    subst empty
    exact other rfl
  · obtain rfl := Except.ok.inj (down.symm.trans stepped)
    intro above shorter other
    rcases List.prefix_concat_iff.mp shorter with whole | shorter
    · exact absurd whole other
    · by_cases here : above = place
      · rw [here, directory]
      · exact rooted above shorter here

theorem foldlM_step_rooted {names : List String} {next : Place} (rooted : fs.Rooted place)
    (walked : names.foldlM fs.step place = .ok next) : fs.Rooted next := by
  induction names generalizing place with
  | nil =>
    obtain rfl := Except.ok.inj walked
    exact rooted
  | cons name names ih =>
    rw [List.foldlM_cons] at walked
    cases stepped : fs.step place name with
    | error fault =>
      rw [stepped] at walked
      contradiction
    | ok middle =>
      rw [stepped] at walked
      exact ih (step_rooted rooted stepped) walked

theorem walk_rooted {path : String} {names : List String} (walked : fs.walk path names = .ok place) :
    fs.Rooted place := by
  unfold walk at walked
  split at walked
  · contradiction
  split at walked
  · contradiction
  split at walked
  · contradiction
  · exact foldlM_step_rooted (rooted_nil fs) walked

/-- A path to a file leads to its place without a slash at the end. -/
theorem resolve_of_resolveFile {path : String} (resolved : fs.resolveFile path = .ok place) :
    fs.resolve path = .ok place := by
  unfold resolveFile at resolved
  split at resolved
  · next rest _ =>
    cases walked : fs.walk path (rest.dropWhile (· = "")).reverse <;> rw [walked] at resolved <;> contradiction
  · exact resolved

/-- The place of the file that a text is put behind, if the path leads to one. -/
def target? (fs : Files) (path : String) : Option Place :=
  (fs.resolveFile path).toOption.filter fun place => fs.get? place ≠ some .directory

theorem target?_eq_some {path : String} : fs.target? path = some place ↔
    fs.resolveFile path = .ok place ∧ fs.get? place ≠ some .directory := by
  unfold target?
  cases fs.resolveFile path with
  | error fault => simp [Except.toOption]
  | ok found =>
    simp only [Except.toOption, Option.filter_eq_some_iff, Option.some.injEq, decide_eq_true_eq, Except.ok.injEq]

theorem target?_rooted {path : String} (target : fs.target? path = some place) : fs.Rooted place :=
  walk_rooted (resolve_of_resolveFile (target?_eq_some.mp target).1)

theorem lookup_filter_ne {p q : Place} (other : q ≠ p) (entries : List (Place × Entry)) :
    (entries.filter (·.1 ≠ p)).lookup q = entries.lookup q := by
  induction entries with
  | nil => rfl
  | cons e entries ih =>
    obtain ⟨r, e⟩ := e
    by_cases dropped : r = p
    · subst dropped
      rw [List.filter_cons_of_neg (by simp), List.lookup_cons, beq_false_of_ne other, ih]
    · rw [List.filter_cons_of_pos (by simpa using dropped), List.lookup_cons, List.lookup_cons, ih]

/-- A file put below directories is all that changes. -/
theorem get?_put (rooted : fs.Rooted place) (below : place ≠ []) (e : Entry) (q : Place) :
    (fs.put place e).get? q = if q = place then some e else fs.get? q := by
  by_cases here : q = place
  · subst here
    simp [put, get?, below]
  rw [if_neg here]
  by_cases top : q = []
  · simp [get?, top]
  have looked : ((place, e) :: fs.entries.filter (·.1 ≠ place)).lookup q = fs.entries.lookup q := by
    rw [List.lookup_cons, beq_false_of_ne here, lookup_filter_ne here]
  rw [get?, if_neg top, get?, if_neg top, put, looked]
  cases found : fs.entries.lookup q with
  | some other => rfl
  | none =>
    by_cases above : q <+: place
    · -- It is above the place, so it was a directory before.
      have directory := rooted q above here
      rw [get?, if_neg top, found] at directory
      rw [directory, List.any_cons, List.isPrefixOf_iff_prefix.mpr above]
      rfl
    · have under : (fs.entries.filter (·.1 ≠ place)).any (fun e => q.isPrefixOf e.1) =
          fs.entries.any fun e => q.isPrefixOf e.1 := by
        rw [List.any_filter]
        refine List.any_congr rfl fun e => ?_
        by_cases same : e.1 = place
        · rw [same, Bool.eq_false_iff.mpr fun leads => above (List.isPrefixOf_iff_prefix.mp leads), Bool.and_false]
        · simp [same]
      rw [List.any_cons, Bool.eq_false_iff.mpr fun leads => above (List.isPrefixOf_iff_prefix.mp leads), under,
        Bool.false_or]

/-- What becomes of the files when a text is put behind what a path leads to: without a target this fails, else the
text is in the target and all else is as it was. -/
theorem append_cases (fs : Files) (path : String) (text : List Char) :
    (fs.target? path = none ∧ ∃ fault, fs.append path text = .error fault) ∨
    ∃ place fs', fs.target? path = some place ∧ fs.append path text = .ok fs' ∧
      ∀ q, fs'.get? q = if q = place then Entry.extended (fs.get? place) [text] else fs.get? q := by
  cases resolved : fs.resolveFile path with
  | error fault =>
    refine .inl ⟨?_, fault, ?_⟩
    · rw [target?, resolved]
      rfl
    · rw [append, resolved]
      rfl
  | ok place =>
    have reached (other : fs.get? place ≠ some .directory) : fs.target? path = some place :=
      target?_eq_some.mpr ⟨resolved, other⟩
    have below (other : fs.get? place ≠ some .directory) : place ≠ [] := by
      rintro rfl
      exact other rfl
    have changed (e : Entry) (other : fs.get? place ≠ some .directory) (q : Place) :
        (fs.put place e).get? q = if q = place then some e else fs.get? q :=
      get?_put (target?_rooted (reached other)) (below other) e q
    rcases found : fs.get? place with _ | _ | old
    · have other : fs.get? place ≠ some .directory := by simp [found]
      refine .inr ⟨place, _, reached other, by rw [append, resolved, Except.bind, found], fun q => ?_⟩
      rw [changed _ other, found]
      simp [Entry.extended]
    · refine .inl ⟨?_, .isDirectory, by rw [append, resolved, Except.bind, found]⟩
      rw [target?, resolved]
      simp [Except.toOption, Option.filter, found]
    · have other : fs.get? place ≠ some .directory := by simp [found]
      refine .inr ⟨place, _, reached other, by rw [append, resolved, Except.bind, found], fun q => ?_⟩
      rw [changed _ other, found]
      simp [Entry.extended]

/-- Paths lead to the same places wherever the same places are directories. -/
theorem walk_eq_of_directories
    (same : ∀ q, fs'.get? q = some .directory ↔ fs.get? q = some .directory) (path : String) (names : List String) :
    (fs'.walk path names).toOption = (fs.walk path names).toOption := by
  have step (place : Place) (name : String) : (fs'.step place name).toOption = (fs.step place name).toOption := by
    by_cases directory : fs.get? place = some .directory
    · rw [Files.step, (same place).mpr directory, Files.step, directory]
    · have failed (gs : Files) (other : gs.get? place ≠ some .directory) : (gs.step place name).toOption = none := by
        obtain ⟨fault, error⟩ | ⟨found, -⟩ := step_cases gs place name
        · rw [error]
          rfl
        · exact absurd found other
      rw [failed fs directory, failed fs' (directory ∘ (same place).mp)]
  have fold (place : Place) : (names.foldlM fs'.step place).toOption = (names.foldlM fs.step place).toOption := by
    induction names generalizing place with
    | nil => rfl
    | cons name names ih =>
      have one := step place name
      rw [List.foldlM_cons, List.foldlM_cons]
      cases before : fs.step place name <;> cases after : fs'.step place name <;> rw [before, after] at one
      · rfl
      · contradiction
      · contradiction
      · obtain rfl := Option.some.inj one
        exact ih _
  unfold walk
  split
  · rfl
  split
  · rfl
  split
  · rfl
  · exact fold []

theorem target?_eq_of_directories
    (same : ∀ q, fs'.get? q = some .directory ↔ fs.get? q = some .directory) (path : String) :
    fs'.target? path = fs.target? path := by
  have resolved : (fs'.resolveFile path).toOption = (fs.resolveFile path).toOption := by
    unfold resolveFile
    split
    · next rest _ =>
      have walked (gs : Files) : ((gs.walk path (rest.dropWhile (· = "")).reverse).bind fun _ =>
          (.error .isDirectory : Except FileFault Place)).toOption = none := by
        cases gs.walk path (rest.dropWhile (· = "")).reverse <;> rfl
      rw [walked, walked]
    · exact walk_eq_of_directories same path (path.splitOn "/")
  rw [target?, target?, resolved]
  congr 1
  funext place
  simp only [ne_eq, same]

/-- The files `fs'` are those of `fs` with texts put behind what stood in certain places, in the given order. -/
def Received (fs fs' : Files) (written : List (Place × List Char)) : Prop :=
  ∀ q, fs'.get? q = Entry.extended (fs.get? q) ((written.filter (·.1 = q)).map (·.2))

theorem received_nil (fs : Files) : fs.Received fs [] := by
  intro q
  rw [List.filter_nil, List.map_nil, Entry.extended_nil]

theorem Received.trans {fs'' : Files} {written more : List (Place × List Char)} (first : fs.Received fs' written)
    (second : fs'.Received fs'' more) : fs.Received fs'' (written ++ more) := by
  intro q
  rw [second q, first q, List.filter_append, List.map_append, Entry.extended_append]

theorem received_singleton {text : List Char}
    (changed : ∀ q, fs'.get? q = if q = place then Entry.extended (fs.get? place) [text] else fs.get? q) :
    fs.Received fs' [(place, text)] := by
  intro q
  rw [changed q]
  by_cases here : q = place
  · subst here
    simp
  · simp [here, Ne.symm here]

/-- What has been written does not change where paths lead. -/
theorem Received.target?_eq {written : List (Place × List Char)} (received : fs.Received fs' written)
    (path : String) : fs'.target? path = fs.target? path :=
  target?_eq_of_directories (fun q => by rw [received q, Entry.extended_eq_directory]) path

/-- A text in the target of a path grows by what was put there. -/
theorem Received.text?_getD {written : List (Place × List Char)} {path : String} (received : fs.Received fs' written)
    (target : fs.target? path = some place) (text : fs.get? place ≠ some (.file none)) :
    (fs'.text? path).getD [] =
      (fs.text? path).getD [] ++ ((written.filter (·.1 = place)).map (·.2)).flatten := by
  have resolved (gs : Files) (target : gs.target? path = some place) : gs.resolve path = .ok place :=
    resolve_of_resolveFile (target?_eq_some.mp target).1
  have reads (gs : Files) (target : gs.target? path = some place) : gs.text? path = match gs.get? place with
      | some (.file t) => t
      | _ => none := by
    rw [text?, read, resolved gs target]
    rcases found : gs.get? place with _ | _ | _ | _ <;> simp [Except.bind, Except.toOption, found]
  have notDirectory := (target?_eq_some.mp target).2
  rw [reads fs' ((received.target?_eq path).trans target), reads fs target, received place]
  cases (written.filter (·.1 = place)).map (·.2) with
  | nil => simp
  | cons t texts =>
    rcases found : fs.get? place with _ | _ | _ | old
    · rfl
    · exact absurd found notDirectory
    · exact absurd found text
    · rfl

end Files

end CodeAudit
