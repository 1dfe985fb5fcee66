import SubnetRouter.CommandLine.Run
import SubnetRouter.Proofs.CommandLine.Words
import SubnetRouter.Proofs.Outcome
import Mathlib.Tactic.Tauto

/-!
# Options that choose a registry

The options `--network` and `--config` are admitted before a command and after it.  They exclude
each other in either place, but not across the two: one before the command and one after it are
taken together, and then the file is read.

* `Step`, `step_of_read`: what reading one word can do.
* `has_readAll`: which options have been given after a run of words.
* `readFrom_eq_ok`: where the command stands in a command line that is accepted.
* `read_choosesTwice_iff`: when an invocation has both options.
-/

namespace SubnetRouter.CommandLine

/-- A word before the two dashes gives the option. -/
def Gives (option : String) (words : List String) : Prop :=
  ∃ word ∈ words.takeWhile (· ≠ "--"), ∃ value, word = longText option value

/-- Options that choose a registry, each with its value in the same word or in the next. -/
inductive OptionWords : List String → Prop where
  | nil : OptionWords []
  | joined {option value : String} {rest : List String} :
    option = "network" ∨ option = "config" → OptionWords rest →
    OptionWords (longText option (some value) :: rest)
  | spaced {option value : String} {rest : List String} :
    option = "network" ∨ option = "config" → IsPlain value → OptionWords rest →
    OptionWords (longText option none :: value :: rest)

/-- A command line is made of options, the name of a command, and the words for the command. -/
structure Places (words before : List String) (command : String) (after : List String) : Prop where
  words_eq : words = before ++ command :: after
  optionWords : OptionWords before
  isCommand : (CommandName.ofWord? command).isSome

/-! ## Names of options -/

/-- The word gives the option, as words are read in the place. -/
def GivesOption (command : Option CommandName) (option : OptionName) (word : String) : Prop :=
  ∃ name value, Word.ofText word = .long name value ∧ OptionName.ofName? command name = some option

theorem ofName?_eq_network_iff (command : Option CommandName) (name : String) :
    OptionName.ofName? command name = some .network ↔ name = "network" := by
  unfold OptionName.ofName?
  split <;> simp_all

theorem ofName?_eq_config_iff (command : Option CommandName) (name : String) :
    OptionName.ofName? command name = some .config ↔ name = "config" := by
  unfold OptionName.ofName?
  split <;> simp_all

theorem eq_of_ofName?_none {name : String} {option : OptionName}
    (h : OptionName.ofName? none name = some option) : name = "network" ∨ name = "config" := by
  unfold OptionName.ofName? at h
  split at h <;> simp_all

theorem givesOption_iff {command : Option CommandName} {option : OptionName}
    {word name : String} {value : Option String} (hform : Word.ofText word = .long name value) :
    GivesOption command option word ↔ OptionName.ofName? command name = some option := by
  unfold GivesOption
  rw [hform]
  simp

theorem not_givesOption {command : Option CommandName} {option : OptionName} {word : String}
    (hform : ∀ name value, Word.ofText word ≠ .long name value) :
    ¬ GivesOption command option word := by
  rintro ⟨name, value, h, -⟩
  exact hform name value h

theorem ofText_registryOption {option : String} (value : Option String)
    (h : option = "network" ∨ option = "config") :
    Word.ofText (longText option value) = .long option value := by
  rcases h with rfl | rfl
  · exact ofText_longText value (by decide) (by decide)
  · exact ofText_longText value (by decide) (by decide)

theorem givesOption_iff_longText {command : Option CommandName} {option : OptionName}
    {text : String} (htext : text = "network" ∨ text = "config")
    (hname : ∀ name, OptionName.ofName? command name = some option ↔ name = text) (word : String) :
    GivesOption command option word ↔ ∃ value, word = longText text value := by
  unfold GivesOption
  simp only [hname]
  constructor
  · rintro ⟨name, value, hform, rfl⟩
    exact ⟨value, eq_longText_of_ofText hform⟩
  · rintro ⟨value, rfl⟩
    exact ⟨text, value, ofText_registryOption value htext, rfl⟩

/-! ## Values -/

namespace Values

def has (v : Values) : OptionName → Bool
  | .network => v.network.isSome
  | .config => v.config.isSome
  | .contract => v.contract.isSome
  | .method => v.method.isSome
  | .abiDirectory => v.abiDirectory.isSome
  | .address => v.address.isSome

theorem isSome_of_once {α : Type} {old new : Option α} {read : Except UsageFault α}
    (h : once old read = .ok new) : new.isSome = true := by
  cases old with
  | none =>
      obtain ⟨a, -, rfl⟩ := (map_eq_ok_iff _ _ _).1 h
      rfl
  | some a => cases h

theorem has_put {v w : Values} {slot : Slot} {text : String} (h : v.put slot text = .ok w)
    (option : OptionName) :
    w.has option = true ↔ v.has option = true ∨ slot = .option option := by
  cases slot with
  | option name =>
      cases name
      all_goals
        obtain ⟨new, hnew, rfl⟩ := (map_eq_ok_iff _ _ _).1 h
        have hsome := isSome_of_once hnew
        cases option
      all_goals simp [has, hsome]
  | subnet =>
      obtain ⟨new, hnew, rfl⟩ := (map_eq_ok_iff _ _ _).1 h
      cases option
      all_goals simp [has]
  | args =>
      cases h
      cases option
      all_goals simp [has]

end Values

/-! ## One word -/

namespace Progress

theorem settle_eq_ok_iff (p s : Progress) :
    p.settle = .ok s ↔
      (p.pending = none ∧ s = p) ∨
      ∃ slot text values, p.pending = some (slot, some text) ∧
        p.values.put slot text = .ok values ∧ s = { p with values := values, pending := none } := by
  unfold settle
  cases hpending : p.pending with
  | none => simp [eq_comm]
  | some pending =>
      obtain ⟨slot, text⟩ := pending
      cases text with
      | none => simp
      | some text =>
          simp only [map_eq_ok_iff]
          constructor
          · rintro ⟨values, hput, rfl⟩
            exact Or.inr ⟨slot, text, values, rfl, hput, rfl⟩
          · rintro (⟨h, -⟩ | ⟨slot', text', values, h, hput, rfl⟩)
            · cases h
            · cases h
              exact ⟨values, hput, rfl⟩

theorem pending_of_settle {p s : Progress} (h : p.settle = .ok s) : s.pending = none := by
  rcases (settle_eq_ok_iff p s).1 h with ⟨hpending, rfl⟩ | ⟨slot, text, values, -, -, rfl⟩
  · exact hpending
  · rfl

theorem onlyArguments_of_settle {p s : Progress} (h : p.settle = .ok s) :
    s.onlyArguments = p.onlyArguments := by
  rcases (settle_eq_ok_iff p s).1 h with ⟨-, rfl⟩ | ⟨slot, text, values, -, -, rfl⟩
  · rfl
  · rfl

/-- What reading a word can do. -/
inductive Step (command : Option CommandName) (p : Progress) (text : String) : Progress → Prop where
  | dashes (hopen : p.onlyArguments = false) (hform : Word.ofText text = .dashes) :
    Step command p text { p with onlyArguments := true }
  | joined {name value : String} {option : OptionName} {s : Progress} {values : Values}
    (hopen : p.onlyArguments = false) (hform : Word.ofText text = .long name (some value))
    (hname : OptionName.ofName? command name = some option) (hsettle : p.settle = .ok s)
    (hput : s.values.put (.option option) value = .ok values) :
    Step command p text { s with values := values }
  | spaced {name : String} {option : OptionName} {s : Progress}
    (hopen : p.onlyArguments = false) (hform : Word.ofText text = .long name none)
    (hname : OptionName.ofName? command name = some option) (hsettle : p.settle = .ok s) :
    Step command p text { s with pending := some (.option option, none) }
  | value {slot : Slot} (hopen : p.onlyArguments = false) (hform : Word.ofText text = .plain)
    (hpending : p.pending = some (slot, none)) :
    Step command p text { p with pending := some (slot, some text) }
  | argument {slot : Slot} {s : Progress}
    (hform : p.onlyArguments = true ∨ Word.ofText text = .plain)
    (hplace : Slot.ofPosition? command p.count = some slot) (hsettle : p.settle = .ok s) :
    Step command p text { s with pending := some (slot, some text), count := s.count + 1 }

theorem step_of_readArgument {command : Option CommandName} {p q : Progress} {text : String}
    (hform : p.onlyArguments = true ∨ Word.ofText text = .plain)
    (h : p.readArgument command text = .ok q) : Step command p text q := by
  unfold readArgument at h
  split at h
  · rename_i slot hplace
    simp only [bind_eq_ok_iff, pure_eq_ok_iff] at h
    obtain ⟨s, hsettle, rfl⟩ := h
    exact .argument hform hplace hsettle
  · split at h <;> cases h

theorem step_of_readLong {command : Option CommandName} {p q : Progress} {text name : String}
    {value : Option String} (hopen : p.onlyArguments = false)
    (hform : Word.ofText text = .long name value) (h : p.readLong command name value = .ok q) :
    Step command p text q := by
  unfold readLong at h
  split at h
  · -- Asking for help is no progress.
    split at h
    · cases h
    · cases hsettle : p.settle with
      | error fault =>
          rw [hsettle] at h
          cases h
      | ok s =>
          rw [hsettle] at h
          cases h
  · split at h
    · cases h
    · rename_i option hname
      obtain ⟨s, hsettle, h⟩ := (bind_eq_ok_iff _ _ _).1 h
      cases value with
      | none =>
          rw [pure_eq_ok_iff] at h
          subst h
          exact .spaced hopen hform hname hsettle
      | some value =>
          simp only [bind_eq_ok_iff, pure_eq_ok_iff] at h
          obtain ⟨values, hput, rfl⟩ := h
          exact .joined hopen hform hname hsettle hput

theorem step_of_read {command : Option CommandName} {p q : Progress} {text : String}
    (h : p.read command text = .ok q) : Step command p text q := by
  unfold read at h
  split at h
  · rename_i honly
    exact step_of_readArgument (Or.inl honly) h
  · rename_i honly
    have hopen : p.onlyArguments = false := by simpa using honly
    split at h
    · rename_i hform
      cases h
      exact .dashes hopen hform
    · rename_i name value hform
      exact step_of_readLong hopen hform h
    · split at h
      · cases hsettle : p.settle with
        | error fault =>
            rw [hsettle] at h
            cases h
        | ok s =>
            rw [hsettle] at h
            cases h
      · cases h
    · rename_i hform
      split at h
      · rename_i slot hpending
        cases h
        exact .value hopen hform hpending
      · exact step_of_readArgument (Or.inr hform) h

theorem readAll_cons_eq_ok_iff (command : Option CommandName) (p q : Progress) (text : String)
    (rest : List String) :
    p.readAll command (text :: rest) = .ok q ↔
      ∃ s, p.read command text = .ok s ∧ s.readAll command rest = .ok q :=
  bind_eq_ok_iff _ _ _

/-! ## What has been given -/

/-- The option has a value, or waits for one. -/
def Has (p : Progress) (option : OptionName) : Prop :=
  p.values.has option = true ∨ ∃ value, p.pending = some (.option option, value)

theorem has_start (option : OptionName) : ¬ start.Has option := by
  rintro (h | ⟨value, h⟩)
  · cases option <;> cases h
  · cases h

theorem has_of_settle {p s : Progress} (h : p.settle = .ok s) (option : OptionName) :
    s.values.has option = true ↔ p.Has option := by
  unfold Has
  rcases (settle_eq_ok_iff p s).1 h with ⟨hpending, rfl⟩ | ⟨slot, text, values, hpending, hput, rfl⟩
  · simp [hpending]
  · rw [Values.has_put hput, hpending]
    simp

theorem has_step {command : Option CommandName} {p q : Progress} {text : String}
    (h : Step command p text q) (option : OptionName) :
    q.Has option ↔ p.Has option ∨ p.onlyArguments = false ∧ GivesOption command option text := by
  cases h with
  | dashes hopen hform =>
      have hnot : ¬ GivesOption command option text := not_givesOption (by simp [hform])
      simp [Has, hnot]
  | joined hopen hform hname hsettle hput =>
      rw [givesOption_iff hform, hname, ← has_of_settle hsettle]
      simp [Has, Values.has_put hput, pending_of_settle hsettle, hopen]
  | spaced hopen hform hname hsettle =>
      rw [givesOption_iff hform, hname, ← has_of_settle hsettle]
      simp [Has, hopen]
  | value hopen hform hpending =>
      have hnot : ¬ GivesOption command option text := not_givesOption (by simp [hform])
      simp [Has, hnot, hpending]
  | argument hform hplace hsettle =>
      -- An argument is no option, even where it looks like one after the two dashes.
      rename_i slot s
      have hslot : slot ≠ .option option := by
        rintro rfl
        unfold Slot.ofPosition? at hplace
        split at hplace <;> cases hplace
      have hnot : ¬ (p.onlyArguments = false ∧ GivesOption command option text) := by
        rintro ⟨hopen, name, value, hlong, -⟩
        rcases hform with honly | hplain
        · rw [hopen] at honly
          cases honly
        · rw [hplain] at hlong
          cases hlong
      rw [← has_of_settle hsettle]
      simp [Has, hslot, hnot]

theorem onlyArguments_step {command : Option CommandName} {p q : Progress} {text : String}
    (h : Step command p text q) :
    q.onlyArguments = true ↔ p.onlyArguments = true ∨ text = "--" := by
  rw [← ofText_eq_dashes_iff]
  cases h with
  | dashes hopen hform => simp [hform]
  | joined hopen hform hname hsettle hput => simp [hform, onlyArguments_of_settle hsettle]
  | spaced hopen hform hname hsettle => simp [hform, onlyArguments_of_settle hsettle]
  | value hopen hform hpending => simp [hform]
  | argument hform hplace hsettle =>
      rw [onlyArguments_of_settle hsettle]
      rcases hform with honly | hplain
      · simp [honly]
      · simp [hplain]

/-- After a run of words an option has been given if it was before, or if one of the words gives it
and does not stand after the two dashes. -/
theorem has_readAll {command : Option CommandName} {p q : Progress} {words : List String}
    (h : p.readAll command words = .ok q) (option : OptionName) :
    q.Has option ↔ p.Has option ∨
      p.onlyArguments = false ∧ ∃ word ∈ words.takeWhile (· ≠ "--"), GivesOption command option word := by
  induction words generalizing p with
  | nil =>
      cases h
      simp
  | cons text rest ih =>
      obtain ⟨s, hread, hrest⟩ := (readAll_cons_eq_ok_iff command p q text rest).1 h
      have hstep := step_of_read hread
      have honly := onlyArguments_step hstep
      rw [ih hrest, has_step hstep]
      by_cases hdashes : text = "--"
      · have hnot : ¬ GivesOption command option text :=
          not_givesOption (by simp [(ofText_eq_dashes_iff text).2 hdashes])
        have hclosed : s.onlyArguments = true := honly.2 (Or.inr hdashes)
        have hnone : (text :: rest).takeWhile (· ≠ "--") = [] :=
          List.takeWhile_cons_of_neg (by simp [hdashes])
        rw [hnone]
        simp [hnot, hclosed]
      · have hsame : s.onlyArguments = p.onlyArguments := by
          rw [Bool.eq_iff_iff, honly]
          simp [hdashes]
        rw [List.takeWhile_cons_of_pos (by simpa using hdashes), hsame]
        simp only [List.mem_cons, exists_eq_or_imp]
        rw [or_assoc, ← and_or_left]

theorem onlyArguments_readAll {command : Option CommandName} {p q : Progress}
    {words : List String} (h : p.readAll command words = .ok q) (honly : p.onlyArguments = true) :
    q.onlyArguments = true := by
  induction words generalizing p with
  | nil =>
      cases h
      exact honly
  | cons text rest ih =>
      obtain ⟨s, hread, hrest⟩ := (readAll_cons_eq_ok_iff command p q text rest).1 h
      exact ih hrest ((onlyArguments_step (step_of_read hread)).2 (Or.inl honly))

theorem not_waits_of_settle {p s : Progress} (h : p.settle = .ok s) : p.waits = false := by
  unfold waits
  rcases (settle_eq_ok_iff p s).1 h with ⟨hpending, -⟩ | ⟨slot, text, values, hpending, -, -⟩
  · simp [hpending]
  · simp [hpending]

/-- What is read before a command are options that choose a registry. -/
theorem optionWords_of_readAll {p q : Progress} {words : List String}
    (h : p.readAll none words = .ok q) (hp : p.onlyArguments = false)
    (hq : q.onlyArguments = false) (hwaits : q.waits = false) :
    (p.waits = false → OptionWords words) ∧
    (p.waits = true → ∃ value rest, words = value :: rest ∧ IsPlain value ∧ OptionWords rest) := by
  -- Nothing but an option waits before a command.  The second part is about the words after one
  -- that does, and the induction needs both.
  induction words generalizing p with
  | nil =>
      cases h
      refine ⟨fun _ => .nil, fun hp => ?_⟩
      rw [hwaits] at hp
      cases hp
  | cons text rest ih =>
      obtain ⟨s, hread, hrest⟩ := (readAll_cons_eq_ok_iff none p q text rest).1 h
      have hs : s.onlyArguments = false := by
        rw [Bool.eq_false_iff]
        intro honly
        rw [onlyArguments_readAll hrest honly] at hq
        cases hq
      have ih := ih hrest hs
      cases step_of_read hread with
      | dashes hopen hform => cases hs
      | joined hopen hform hname hsettle hput =>
          rename_i name value option s values
          have hnext : Progress.waits { s with values := values } = false := by
            simp [waits, pending_of_settle hsettle]
          rw [eq_longText_of_ofText hform, not_waits_of_settle hsettle]
          exact ⟨fun _ => .joined (eq_of_ofName?_none hname) (ih.1 hnext), nofun⟩
      | spaced hopen hform hname hsettle =>
          rename_i name option s
          have hnext : Progress.waits { s with pending := some (.option option, none) } = true := by
            simp [waits, onlyArguments_of_settle hsettle, hopen]
          obtain ⟨value, others, rfl, hplain, hothers⟩ := ih.2 hnext
          rw [eq_longText_of_ofText hform, not_waits_of_settle hsettle]
          exact ⟨fun _ => .spaced (eq_of_ofName?_none hname) hplain hothers, nofun⟩
      | value hopen hform hpending =>
          rename_i slot
          have hnext : Progress.waits { p with pending := some (slot, some text) } = false := by
            simp [waits]
          have hp : p.waits = true := by simp [waits, hopen, hpending]
          rw [hp]
          exact ⟨nofun, fun _ => ⟨text, rest, rfl, (ofText_eq_plain_iff text).1 hform, ih.1 hnext⟩⟩
      | argument hform hplace hsettle => cases hplace

end Progress

/-! ## A whole command line -/

theorem choosesTwice_iff (v : Values) :
    v.choosesTwice = true ↔ v.has .network = true ∧ v.has .config = true := by
  unfold Values.choosesTwice
  rw [Bool.and_eq_true]
  rfl

theorem readCommand_eq_ok {name : CommandName} {words : List String} {values : Values}
    {command : Command} (h : readCommand name words = .ok (values, command)) :
    ∃ p s, Progress.start.readAll (some name) words = .ok p ∧ p.settle = .ok s ∧
      s.values.choosesTwice = false ∧ s.values = values := by
  unfold readCommand at h
  obtain ⟨p, hp, h⟩ := (bind_eq_ok_iff _ _ _).1 h
  obtain ⟨s, hs, h⟩ := (bind_eq_ok_iff _ _ _).1 h
  split at h
  · cases h
  · rename_i htwice
    dsimp only at h
    obtain ⟨_, _, h⟩ := (bind_eq_ok_iff _ _ _).1 h
    rw [pure_eq_ok_iff, Prod.mk.injEq] at h
    exact ⟨p, s, hp, hs, by simpa using htwice, h.1⟩

theorem join_eq_ok {p : Progress} {values : Values} {command : Command} {i : Invocation}
    (h : join p values command = .ok i) :
    ∃ s, p.settle = .ok s ∧ s.values.choosesTwice = false ∧
      i = ⟨values.network <|> s.values.network, values.config <|> s.values.config, command⟩ := by
  unfold join at h
  obtain ⟨s, hs, h⟩ := (bind_eq_ok_iff _ _ _).1 h
  split at h
  · cases h
  · rename_i htwice
    rw [pure_eq_ok_iff] at h
    exact ⟨s, hs, by simpa using htwice, h.symm⟩

/-- A command line that is accepted is made of words that are read before the command, the name of
the command, and words that are read for the command. -/
theorem readFrom_eq_ok {p : Progress} {words : List String} {i : Invocation}
    (h : readFrom p words = .ok i) :
    ∃ before word after q name values command, words = before ++ word :: after ∧
      p.readAll none before = .ok q ∧ q.onlyArguments = false ∧ q.waits = false ∧
      CommandName.ofWord? word = some name ∧ readCommand name after = .ok (values, command) ∧
      join q values command = .ok i := by
  induction words generalizing p with
  | nil => cases h
  | cons word rest ih =>
      rw [readFrom] at h
      split at h
      · cases h
      · split at h
        · rename_i name hname
          split at hname
          · cases hname
          · rename_i hplace
            rw [Bool.or_eq_true, not_or, Bool.not_eq_true, Bool.not_eq_true] at hplace
            obtain ⟨⟨values, command⟩, hcommand, hjoin⟩ := (bind_eq_ok_iff _ _ _).1 h
            exact ⟨[], word, rest, p, name, values, command, rfl, rfl, hplace.1, hplace.2, hname,
              hcommand, hjoin⟩
        · obtain ⟨s, hread, hrest⟩ := (bind_eq_ok_iff _ _ _).1 h
          obtain ⟨before, command, after, q, name, values, c, rfl, hq, hall⟩ := ih hrest
          refine ⟨word :: before, command, after, q, name, values, c, rfl, ?_, hall⟩
          exact (Progress.readAll_cons_eq_ok_iff none p q word before).2 ⟨s, hread, hq⟩

/-- What one place of a command line gives of an option that is admitted in both. -/
theorem has_iff_gives {place : Option CommandName} {p s : Progress} {words : List String}
    {option : OptionName} {text : String} (htext : text = "network" ∨ text = "config")
    (hname : ∀ name, OptionName.ofName? place name = some option ↔ name = text)
    (hp : Progress.start.readAll place words = .ok p) (hs : p.settle = .ok s) :
    s.values.has option = true ↔ Gives text words := by
  have hopen : Progress.start.onlyArguments = false := rfl
  rw [Progress.has_of_settle hs, Progress.has_readAll hp]
  simp only [Progress.has_start, hopen, false_or, true_and, givesOption_iff_longText htext hname,
    Gives]

theorem isPlain_of_isCommand {word : String} (h : (CommandName.ofWord? word).isSome) :
    IsPlain word := by
  unfold CommandName.ofWord? at h
  split at h
  · exact Or.inr (by decide)
  · exact Or.inr (by decide)
  · exact Or.inr (by decide)
  · cases h

theorem OptionWords.append_inj {before before' after after' : List String} {word word' : String}
    (hbefore : OptionWords before) (hbefore' : OptionWords before') (hword : IsPlain word)
    (hword' : IsPlain word') (h : before ++ word :: after = before' ++ word' :: after') :
    before = before' ∧ word = word' ∧ after = after' := by
  rw [← ofText_eq_plain_iff] at hword hword'
  -- An option is no plain word, so neither run of options ends inside the other.
  induction hbefore generalizing before' with
  | nil =>
      cases hbefore' with
      | nil =>
          rw [List.nil_append, List.nil_append, List.cons.injEq] at h
          exact ⟨rfl, h⟩
      | joined hoption | spaced hoption =>
          rw [List.nil_append, List.cons_append, List.cons.injEq] at h
          rw [h.1, ofText_registryOption _ hoption] at hword
          cases hword
  | joined hoption hrest ih =>
      cases hbefore' with
      | nil =>
          rw [List.nil_append, List.cons_append, List.cons.injEq] at h
          rw [← h.1, ofText_registryOption _ hoption] at hword'
          cases hword'
      | joined hoption' hrest' =>
          rw [List.cons_append, List.cons_append, List.cons.injEq] at h
          obtain ⟨rfl, hsame⟩ := ih hrest' h.2
          exact ⟨by rw [h.1], hsame⟩
      | spaced hoption' hvalue' hrest' =>
          rw [List.cons_append, List.cons_append, List.cons.injEq] at h
          have hform := congrArg Word.ofText h.1
          rw [ofText_registryOption _ hoption, ofText_registryOption _ hoption'] at hform
          cases hform
  | spaced hoption hvalue hrest ih =>
      cases hbefore' with
      | nil =>
          rw [List.nil_append, List.cons_append, List.cons.injEq] at h
          rw [← h.1, ofText_registryOption _ hoption] at hword'
          cases hword'
      | joined hoption' hrest' =>
          simp only [List.cons_append, List.cons.injEq] at h
          have hform := congrArg Word.ofText h.1
          rw [ofText_registryOption _ hoption, ofText_registryOption _ hoption'] at hform
          cases hform
      | spaced hoption' hvalue' hrest' =>
          simp only [List.cons_append, List.cons.injEq] at h
          obtain ⟨rfl, hsame⟩ := ih hrest' h.2.2
          exact ⟨by rw [h.1, h.2.1], hsame⟩

/-- The command stands at one place only. -/
theorem Places.unique {words before before' after after' : List String} {command command' : String}
    (h : Places words before command after) (h' : Places words before' command' after') :
    before = before' ∧ command = command' ∧ after = after' :=
  h.optionWords.append_inj h'.optionWords (isPlain_of_isCommand h.isCommand)
    (isPlain_of_isCommand h'.isCommand) (h.words_eq.symm.trans h'.words_eq)

/-- The registry options that an accepted command line gives, by their places. -/
theorem read_eq_ok {words : List String} {i : Invocation} (h : read words = .ok i) :
    ∃ before command after, Places words before command after ∧
      (i.network.isSome ↔ Gives "network" before ∨ Gives "network" after) ∧
      (i.config.isSome ↔ Gives "config" before ∨ Gives "config" after) ∧
      ¬ (Gives "network" before ∧ Gives "config" before) ∧
      ¬ (Gives "network" after ∧ Gives "config" after) := by
  obtain ⟨before, word, after, q, name, values, command, hwords, hq, honly, hwaits, hname, hcommand,
    hjoin⟩ := readFrom_eq_ok h
  obtain ⟨p, s, hp, hs, htwice, rfl⟩ := readCommand_eq_ok hcommand
  obtain ⟨t, ht, htwice', rfl⟩ := join_eq_ok hjoin
  obtain ⟨hbefore, -⟩ := Progress.optionWords_of_readAll hq rfl honly hwaits
  have hnetwork := has_iff_gives (Or.inl rfl) (ofName?_eq_network_iff none) hq ht
  have hconfig := has_iff_gives (Or.inr rfl) (ofName?_eq_config_iff none) hq ht
  have hnetwork' := has_iff_gives (Or.inl rfl) (ofName?_eq_network_iff (some name)) hp hs
  have hconfig' := has_iff_gives (Or.inr rfl) (ofName?_eq_config_iff (some name)) hp hs
  rw [← Bool.not_eq_true, choosesTwice_iff] at htwice htwice'
  rw [hnetwork, hconfig] at htwice'
  rw [hnetwork', hconfig'] at htwice
  refine ⟨before, word, after, ⟨hwords, hbefore rfl, by rw [hname]; rfl⟩, ?_, ?_, htwice', htwice⟩
  · rw [← hnetwork, ← hnetwork', or_comm, ← Bool.or_eq_true]
    simp [Values.has]
  · rw [← hconfig, ← hconfig', or_comm, ← Bool.or_eq_true]
    simp [Values.has]

/-- An accepted command line has its command at one place.  It chooses a registry twice exactly when
one of the two options stands before the command and the other one after it.  Then the file is the
source of the registry, and the network is passed over. -/
theorem read_choosesTwice_iff {words : List String} {i : Invocation} (h : read words = .ok i) :
    (∃ before command after, Places words before command after) ∧
    (∀ before command after, Places words before command after →
      ((i.network.isSome ∧ i.config.isSome) ↔
        (Gives "network" before ∧ Gives "config" after) ∨
          (Gives "config" before ∧ Gives "network" after))) ∧
    (i.network.isSome ∧ i.config.isSome →
      ∃ path, i.config = some path ∧ ∀ env, i.source env = .file path) := by
  obtain ⟨before, command, after, hplaces, hnetwork, hconfig, hbefore, hafter⟩ := read_eq_ok h
  refine ⟨⟨before, command, after, hplaces⟩, ?_, ?_⟩
  · intro before' command' after' hplaces'
    obtain ⟨rfl, -, rfl⟩ := hplaces.unique hplaces'
    rw [hnetwork, hconfig]
    tauto
  · rintro ⟨-, hsome⟩
    obtain ⟨path, hpath⟩ := Option.isSome_iff_exists.1 hsome
    refine ⟨path, hpath, fun env => ?_⟩
    unfold Invocation.source
    rw [hpath]

/-- The network stands before the command and the file after it. -/
theorem read_network_resolve_config :
    read ["--network", "calibration", "resolve", "r314159", "--config", "reg.toml"] =
      .ok ⟨some "calibration", some "reg.toml", .resolve (SubnetId.ofRoot 314159)⟩ := by
  decide +kernel

theorem read_choosesTwice_iff_config_resolve_network :
    ∃ i, read ["--config=reg.toml", "resolve", "r314159", "--network", "calibration"] = .ok i ∧
      i.network.isSome ∧ i.config.isSome ∧ ∃ path, ∀ env, i.source env = .file path := by
  let i : Invocation :=
    ⟨some "calibration", some "reg.toml", .resolve (SubnetId.ofRoot 314159)⟩
  have hread : read ["--config=reg.toml", "resolve", "r314159", "--network", "calibration"] =
      .ok i := by decide +kernel
  have hconfig : "--config=reg.toml" = longText "config" (some "reg.toml") := by decide
  have hnetwork : "--network" = longText "network" none := by decide
  have hplaces : Places ["--config=reg.toml", "resolve", "r314159", "--network", "calibration"]
      ["--config=reg.toml"] "resolve" ["r314159", "--network", "calibration"] := by
    refine ⟨rfl, ?_, rfl⟩
    rw [hconfig]
    exact .joined (Or.inr rfl) .nil
  obtain ⟨-, hiff, hsource⟩ := read_choosesTwice_iff hread
  have hboth := (hiff _ _ _ hplaces).2 (Or.inr
    ⟨⟨"--config=reg.toml", by decide, _, hconfig⟩, "--network", by decide, _, hnetwork⟩)
  obtain ⟨path, -, hpath⟩ := hsource hboth
  exact ⟨i, hread, hboth.1, hboth.2, path, hpath⟩

end SubnetRouter.CommandLine
