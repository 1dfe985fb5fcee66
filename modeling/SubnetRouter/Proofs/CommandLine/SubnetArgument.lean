import SubnetRouter.Proofs.CommandLine.RegistryOptions
import SubnetRouter.Proofs.SubnetId.Grammar

/-!
# The subnet on a command line

The text of the subnet to resolve counts only as the id that it is read as.  Two readings that differ
in the text go through states that differ in the value that waits for its place, and come together
when it is put there.

* `Interchangeable`, `readAll_settle_congr`: the two readings step by step, and as a whole.
* `read_resolve_congr`: texts of one id give the same invocation.
-/

namespace SubnetRouter.CommandLine

/-! ## Texts that are put alike -/

namespace Progress

/-- The states differ in nothing but the text of the last value, and it makes no difference. -/
structure Interchangeable (p q : Progress) (slot : Slot) (text text' : String) : Prop where
  pending_eq : p.pending = some (slot, some text)
  eq_with : q = { p with pending := some (slot, some text') }
  put_eq : ∀ values : Values, values.put slot text = values.put slot text'

variable {p q : Progress} {slot : Slot} {text text' : String}

theorem Interchangeable.settle_eq (h : Interchangeable p q slot text text') :
    p.settle = q.settle := by
  rw [h.eq_with]
  unfold settle
  simp only [h.pending_eq, h.put_eq]

theorem Interchangeable.readArgument_eq (h : Interchangeable p q slot text text')
    (command : Option CommandName) (word : String) :
    p.readArgument command word = q.readArgument command word := by
  have hcount : q.count = p.count := by rw [h.eq_with]
  have honly : q.onlyArguments = p.onlyArguments := by rw [h.eq_with]
  unfold readArgument
  rw [h.settle_eq, hcount, honly]

theorem Interchangeable.readLong_eq (h : Interchangeable p q slot text text')
    (command : Option CommandName) (name : String) (value : Option String) :
    p.readLong command name value = q.readLong command name value := by
  unfold readLong
  rw [h.settle_eq]

/-- One word is read alike, unless it is the two dashes; these leave the value waiting. -/
theorem Interchangeable.read_congr (h : Interchangeable p q slot text text')
    (command : Option CommandName) (word : String) :
    p.read command word = q.read command word ∨
      ∃ p' q', p.read command word = .ok p' ∧ q.read command word = .ok q' ∧
        Interchangeable p' q' slot text text' := by
  have honly : q.onlyArguments = p.onlyArguments := by rw [h.eq_with]
  have hpending : q.pending = some (slot, some text') := by rw [h.eq_with]
  unfold read
  rw [honly, h.pending_eq, hpending, h.readArgument_eq, h.settle_eq]
  split
  · exact Or.inl rfl
  · split
    · refine Or.inr ⟨_, _, rfl, rfl, rfl, ?_, h.put_eq⟩
      rw [h.eq_with]
    · exact Or.inl (h.readLong_eq _ _ _)
    · exact Or.inl rfl
    · exact Or.inl rfl

theorem Interchangeable.readAll_settle_congr (h : Interchangeable p q slot text text')
    (command : Option CommandName) (words : List String) :
    (p.readAll command words).bind settle = (q.readAll command words).bind settle := by
  induction words generalizing p q with
  | nil => exact h.settle_eq
  | cons word rest ih =>
      unfold readAll
      rcases h.read_congr command word with heq | ⟨p', q', hp, hq, h'⟩
      · rw [heq]
      · rw [hp, hq]
        exact ih h'

/-! ## The words before the subnet -/

theorem readAll_append (command : Option CommandName) (p : Progress) (front back : List String) :
    p.readAll command (front ++ back) = (p.readAll command front).bind (·.readAll command back) := by
  induction front generalizing p with
  | nil => rfl
  | cons word rest ih =>
      rw [List.cons_append, readAll, readAll]
      cases p.read command word with
      | error fault => rfl
      | ok s => exact ih s

theorem free_of_joined {command : Option CommandName} {p q : Progress} {option value : String}
    (h : p.read command (longText option (some value)) = .ok q)
    (hoption : option = "network" ∨ option = "config") (hopen : p.onlyArguments = false) :
    q.onlyArguments = false ∧ q.waits = false := by
  have hlong := ofText_registryOption (some value) hoption
  cases step_of_read h with
  | dashes _ hform | spaced _ hform hname hsettle | value _ hform hpending =>
      rw [hform] at hlong
      cases hlong
  | joined _ hform hname hsettle hput =>
      have hs := onlyArguments_of_settle hsettle
      exact ⟨hs.trans hopen, by simp [waits, pending_of_settle hsettle]⟩
  | argument hform hplace hsettle =>
      rw [hopen, hlong] at hform
      simp at hform

theorem waits_of_spaced {command : Option CommandName} {p q : Progress} {option : String}
    (h : p.read command (longText option none) = .ok q)
    (hoption : option = "network" ∨ option = "config") (hopen : p.onlyArguments = false) :
    q.onlyArguments = false ∧ q.waits = true := by
  have hlong := ofText_registryOption none hoption
  cases step_of_read h with
  | dashes _ hform | joined _ hform hname hsettle hput | value _ hform hpending =>
      rw [hform] at hlong
      cases hlong
  | spaced _ hform hname hsettle =>
      have hs := (onlyArguments_of_settle hsettle).trans hopen
      exact ⟨hs, by simp [waits, hs]⟩
  | argument hform hplace hsettle =>
      rw [hopen, hlong] at hform
      simp at hform

theorem free_of_value {command : Option CommandName} {p q : Progress} {value : String}
    (h : p.read command value = .ok q) (hvalue : IsPlain value) (hopen : p.onlyArguments = false)
    (hwaits : p.waits = true) : q.onlyArguments = false ∧ q.waits = false := by
  have hplain := (ofText_eq_plain_iff value).2 hvalue
  cases step_of_read h with
  | dashes _ hform | joined _ hform hname hsettle hput | spaced _ hform hname hsettle =>
      rw [hform] at hplain
      cases hplain
  | value _ hform hpending => exact ⟨hopen, by simp [waits]⟩
  | argument hform hplace hsettle =>
      rw [not_waits_of_settle hsettle] at hwaits
      cases hwaits

/-- Options leave no option waiting. -/
theorem free_of_optionWords {command : Option CommandName} {p q : Progress} {words : List String}
    (hwords : OptionWords words) (h : p.readAll command words = .ok q)
    (hopen : p.onlyArguments = false) (hfree : p.waits = false) :
    q.onlyArguments = false ∧ q.waits = false := by
  induction hwords generalizing p with
  | nil =>
      cases h
      exact ⟨hopen, hfree⟩
  | joined hoption hrest ih =>
      obtain ⟨s, hread, hall⟩ := (readAll_cons_eq_ok_iff _ _ _ _ _).1 h
      obtain ⟨hopen, hfree⟩ := free_of_joined hread hoption hopen
      exact ih hall hopen hfree
  | spaced hoption hvalue hrest ih =>
      obtain ⟨s, hread, hall⟩ := (readAll_cons_eq_ok_iff _ _ _ _ _).1 h
      obtain ⟨t, hread', hall⟩ := (readAll_cons_eq_ok_iff _ _ _ _ _).1 hall
      obtain ⟨hopen, hwaits⟩ := waits_of_spaced hread hoption hopen
      obtain ⟨hopen, hfree⟩ := free_of_value hread' hvalue hopen hwaits
      exact ih hall hopen hfree

theorem free_of_dashes {command : Option CommandName} {p q : Progress}
    {options dashes : List String} (hoptions : OptionWords options)
    (hdashes : dashes = [] ∨ dashes = ["--"]) (h : p.readAll command (options ++ dashes) = .ok q)
    (hopen : p.onlyArguments = false) (hfree : p.waits = false) : q.waits = false := by
  rw [readAll_append] at h
  obtain ⟨s, hs, h⟩ := (bind_eq_ok_iff _ _ _).1 h
  rcases hdashes with rfl | rfl
  · cases h
    exact (free_of_optionWords hoptions hs hopen hfree).2
  · obtain ⟨t, ht, h⟩ := (readAll_cons_eq_ok_iff _ _ _ _ _).1 h
    cases h
    have honly := (onlyArguments_step (step_of_read ht)).2 (Or.inr rfl)
    simp [waits, honly]

/-! ## The subnet -/

theorem readArgument_subnet_congr (p : Progress) {text text' : String}
    (hput : ∀ values : Values, values.put .subnet text = values.put .subnet text') :
    p.readArgument (some .resolve) text = p.readArgument (some .resolve) text' ∨
      ∃ q q', p.readArgument (some .resolve) text = .ok q ∧
        p.readArgument (some .resolve) text' = .ok q' ∧
        Interchangeable q q' .subnet text text' := by
  unfold readArgument
  cases hplace : Slot.ofPosition? (some .resolve) p.count with
  | none => exact Or.inl rfl
  | some slot =>
      have hslot : slot = .subnet := by
        unfold Slot.ofPosition? at hplace
        split at hplace <;> simp_all
      subst hslot
      cases p.settle with
      | error fault => exact Or.inl rfl
      | ok s => exact Or.inr ⟨_, _, rfl, rfl, rfl, rfl, hput⟩

theorem readAll_subnet_congr {p : Progress} {text text' : String}
    (hput : ∀ values : Values, values.put .subnet text = values.put .subnet text')
    (htext : IsPlain text) (htext' : IsPlain text') (hwaits : p.waits = false)
    (after : List String) :
    (p.readAll (some .resolve) (text :: after)).bind settle =
      (p.readAll (some .resolve) (text' :: after)).bind settle := by
  have hread : ∀ word, IsPlain word →
      p.read (some .resolve) word = p.readArgument (some .resolve) word := by
    intro word hword
    unfold read
    rw [(ofText_eq_plain_iff word).2 hword]
    split
    · rfl
    · rename_i hopen
      dsimp only
      split
      · rename_i slot hpending
        simp [waits, hopen, hpending] at hwaits
      · rfl
  unfold readAll
  rw [hread text htext, hread text' htext']
  rcases readArgument_subnet_congr p hput with heq | ⟨q, q', hq, hq', h⟩
  · rw [heq]
  · rw [hq, hq']
    exact h.readAll_settle_congr (some .resolve) after

end Progress

theorem put_subnet_congr {text text' : String} {id : SubnetId} (h : SubnetId.read text = .ok id)
    (h' : SubnetId.read text' = .ok id) (values : Values) :
    values.put .subnet text = values.put .subnet text' := by
  unfold Values.put Values.readSubnet
  rw [h, h']

theorem isPlain_of_read {text : String} {id : SubnetId} (h : SubnetId.read text = .ok id) :
    IsPlain text := by
  obtain ⟨first, segments, hsplit, ⟨number, rfl, -⟩, -⟩ := (SubnetId.read_eq_ok_iff text id).1 h
  have hcut := (SubnetId.cut_eq_iff text.toList ('r' :: number) segments).2 hsplit
  right
  cases htext : text.toList with
  | nil => simp
  | cons c rest =>
      rw [htext, Text.cut] at hcut
      dsimp only at hcut
      split at hcut
      · cases hcut
      · rw [Prod.mk.injEq, List.cons.injEq] at hcut
        rw [hcut.1.1]
        simp

/-! ## Command lines -/

theorem readCommand_resolve_congr {words words' : List String}
    (h : (Progress.start.readAll (some .resolve) words).bind Progress.settle =
      (Progress.start.readAll (some .resolve) words').bind Progress.settle) :
    readCommand .resolve words = readCommand .resolve words' := by
  have hbind : ∀ words, readCommand .resolve words =
      ((Progress.start.readAll (some .resolve) words).bind Progress.settle).bind fun p => do
        if p.values.choosesTwice then throw .conflict
        let command ← commandOf .resolve p.values
        return (p.values, command) := by
    intro words
    unfold readCommand
    cases Progress.start.readAll (some .resolve) words with
    | error fault => rfl
    | ok p => rfl
  rw [hbind, hbind, h]

theorem readFrom_cons_of_long {p : Progress} {word name : String} {value : Option String}
    (hform : Word.ofText word = .long name value) (rest : List String) :
    readFrom p (word :: rest) = (p.read none word).bind fun p => readFrom p rest := by
  have hhelp : (word == "help") = false := by
    rw [beq_eq_false_iff_ne]
    rintro rfl
    cases hform
  have hname : CommandName.ofWord? word = none := by
    rw [← Option.not_isSome_iff_eq_none]
    intro hsome
    rw [(ofText_eq_plain_iff word).2 (isPlain_of_isCommand hsome)] at hform
    cases hform
  rw [readFrom, hhelp, hname]
  simp

theorem readFrom_cons_of_waits {p : Progress} (hwaits : p.waits = true) (word : String)
    (rest : List String) :
    readFrom p (word :: rest) = (p.read none word).bind fun p => readFrom p rest := by
  rw [readFrom, hwaits]
  simp

theorem readFrom_resolve {p : Progress} (hopen : p.onlyArguments = false) (hfree : p.waits = false)
    (words : List String) :
    readFrom p ("resolve" :: words) =
      (readCommand .resolve words).bind fun (values, command) => join p values command := by
  have hname : CommandName.ofWord? "resolve" = some .resolve := rfl
  have hhelp : ("resolve" == "help") = false := by decide
  rw [readFrom, hopen, hfree, hname, hhelp]
  rfl

/-- What is read before a command does not depend on what follows its name. -/
theorem readFrom_resolve_congr {p : Progress} {before words words' : List String}
    (hbefore : OptionWords before) (hopen : p.onlyArguments = false) (hfree : p.waits = false)
    (h : readCommand .resolve words = readCommand .resolve words') :
    readFrom p (before ++ "resolve" :: words) = readFrom p (before ++ "resolve" :: words') := by
  induction hbefore generalizing p with
  | nil =>
      rw [List.nil_append, List.nil_append, readFrom_resolve hopen hfree,
        readFrom_resolve hopen hfree, h]
  | joined hoption hrest ih =>
      rename_i option value rest
      have hlong := ofText_registryOption (some value) hoption
      rw [List.cons_append, List.cons_append, readFrom_cons_of_long hlong,
        readFrom_cons_of_long hlong]
      cases hread : p.read none (longText option (some value)) with
      | error fault => rfl
      | ok q =>
          obtain ⟨hopen, hfree⟩ := Progress.free_of_joined hread hoption hopen
          exact ih hopen hfree
  | spaced hoption hvalue hrest ih =>
      rename_i option value rest
      have hlong := ofText_registryOption none hoption
      rw [List.cons_append, List.cons_append, List.cons_append, List.cons_append,
        readFrom_cons_of_long hlong, readFrom_cons_of_long hlong]
      cases hread : p.read none (longText option none) with
      | error fault => rfl
      | ok q =>
          obtain ⟨hopen, hwaits⟩ := Progress.waits_of_spaced hread hoption hopen
          change readFrom q (value :: _) = readFrom q (value :: _)
          rw [readFrom_cons_of_waits hwaits, readFrom_cons_of_waits hwaits]
          cases hread' : q.read none value with
          | error fault => rfl
          | ok t =>
              obtain ⟨hopen, hfree⟩ := Progress.free_of_value hread' hvalue hopen hwaits
              exact ih hopen hfree

/-- Options may stand before and after the command, and the two dashes before the subnet. -/
theorem read_resolve_congr {before options dashes after : List String} {text text' : String}
    {id : SubnetId} (hbefore : OptionWords before) (hoptions : OptionWords options)
    (hdashes : dashes = [] ∨ dashes = ["--"]) (h : SubnetId.read text = .ok id)
    (h' : SubnetId.read text' = .ok id) :
    read (before ++ "resolve" :: (options ++ dashes ++ text :: after)) =
      read (before ++ "resolve" :: (options ++ dashes ++ text' :: after)) := by
  apply readFrom_resolve_congr hbefore rfl rfl
  apply readCommand_resolve_congr
  rw [Progress.readAll_append _ _ _ (text :: after), Progress.readAll_append _ _ _ (text' :: after)]
  cases hread : Progress.start.readAll (some .resolve) (options ++ dashes) with
  | error fault => rfl
  | ok q =>
      exact Progress.readAll_subnet_congr (put_subnet_congr h h') (isPlain_of_read h)
        (isPlain_of_read h') (Progress.free_of_dashes hoptions hdashes hread rfl rfl) after

end SubnetRouter.CommandLine
