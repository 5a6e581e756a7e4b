import Seedbed.CommandLine.Arguments
import Seedbed.Proofs.Config.Entries
import Seedbed.Proofs.Text.System

/-!
# How command lines are spelled

A command line gives options with values: a value follows the name of its option, or stands after a
sign of equality, and a mark may end them all (`Spells`). Reading it takes these options with these
values, one after the other, and nothing that is spelled otherwise is read (`readAll_eq_ok_iff`).
-/

namespace Seedbed.CommandLine

open SystemText

/-! ## Spelling -/

/-- Whether a text can be the value after an option: it has no dash in front, or is nothing else. -/
def IsValue (text : SystemText) : Prop := ∀ rest, text.octets = dash :: rest → rest = []

/-- The name of an option as it is written. -/
def Opt.flag (option : Opt) : SystemText := ofText ("--" ++ option.name)

/-- Whether a command line gives some options with values, in order. -/
inductive Spells : List SystemText → List (Opt × SystemText) → Prop where
  | nothing : Spells [] []
  | mark : Spells ["--"] []
  | apart (option : Opt) {value : SystemText} {texts : List SystemText}
      {given : List (Opt × SystemText)} (isValue : IsValue value) (rest : Spells texts given) :
      Spells (option.flag :: value :: texts) ((option, value) :: given)
  | joined (option : Opt) (value : SystemText) {texts : List SystemText}
      {given : List (Opt × SystemText)} (rest : Spells texts given) :
      Spells ((option.flag ++ "=" ++ value) :: texts) ((option, value) :: given)

/-! ## Forms -/

theorem splitLong_joined {name : SystemText} (value : SystemText) (plain : equals ∉ name.octets) :
    splitLong (name.octets ++ equals :: value.octets) = (name, some value) := by
  have all : ∀ octet ∈ name.octets, (octet != equals) = true := fun octet inside =>
    bne_iff_ne.mpr fun sign => plain (sign ▸ inside)
  have before : (name.octets ++ equals :: value.octets).takeWhile (· != equals) = name.octets := by
    rw [List.takeWhile_append_of_pos all]
    simp
  have after : (name.octets ++ equals :: value.octets).dropWhile (· != equals) =
      equals :: value.octets := by
    rw [List.dropWhile_append_of_pos all]
    simp
  rw [splitLong, before, after]

/-- A long option is written as it is split. -/
theorem octets_splitLong (octets : List UInt8) :
    octets = (splitLong octets).1.octets ++
      (splitLong octets).2.elim [] fun value => equals :: value.octets := by
  have whole := @List.takeWhile_append_dropWhile _ (· != equals) octets
  unfold splitLong
  cases rest : octets.dropWhile (· != equals) with
  | nil =>
    rw [rest] at whole
    exact whole.symm
  | cons octet value =>
    have sign := List.head?_dropWhile_not (· != equals) octets
    rw [rest] at sign
    have sign : octet = equals := by simpa using sign
    rw [rest, sign] at whole
    exact whole.symm

theorem Opt.octets_flag (option : Opt) :
    option.flag.octets = dash :: dash :: (ofText option.name).octets := by
  cases option <;> rfl

theorem Opt.called?_name (option : Opt) : Opt.called? option.name = some option := by
  rw [called?, text?_ofText]
  exact Opt.ofName?_name option

theorem Opt.called?_eq_some_iff {name : SystemText} {option : Opt} :
    Opt.called? name = some option ↔ name = option.name := by
  constructor
  · intro known
    obtain ⟨text, read, found⟩ := Option.bind_eq_some_iff.mp known
    have same : option.name = text := by simpa using List.find?_some found
    rw [same]
    exact text?_eq_some_iff.mp read
  · rintro rfl
    exact Opt.called?_name option

namespace Form

theorem of_flag (option : Opt) : of option.flag = .long option.name none := by
  cases option <;> decide

theorem of_joined (option : Opt) (value : SystemText) :
    of (option.flag ++ "=" ++ value) = .long option.name (some value) := by
  have split := @splitLong_joined option.name value (by cases option <;> decide)
  have written : (option.flag ++ "=" ++ value).octets =
      dash :: dash :: ((ofText option.name).octets ++ equals :: value.octets) := by
    rw [octets_append, octets_append, option.octets_flag, List.append_assoc]
    rfl
  unfold of
  rw [written]
  cases option <;> exact congrArg (fun parts => Form.long parts.1 parts.2) split

theorem octets_of_long {text name : SystemText} {value? : Option SystemText}
    (form : of text = .long name value?) :
    text.octets = dash :: dash ::
      (name.octets ++ value?.elim [] fun value => equals :: value.octets) := by
  unfold of at form
  split at form
  · cases form
  · rename_i rest _ written
    cases form
    rw [← octets_splitLong]
    exact written
  · cases form
  · cases form

theorem text_of_mark {text : SystemText} (form : of text = .mark) : text = "--" := by
  unfold of at form
  split at form
  · rename_i written
    exact congrArg SystemText.mk written
  · cases form
  · cases form
  · cases form

theorem isValue_of_plain {text plain : SystemText} (form : of text = .plain plain) :
    plain = text ∧ IsValue text := by
  unfold of at form
  split at form
  · cases form
  · cases form
  · cases form
  · rename_i other
    cases form
    refine ⟨rfl, fun rest written => ?_⟩
    cases rest with
    | nil => rfl
    | cons first rest => exact absurd written (other first rest)

theorem of_isValue {text : SystemText} (isValue : IsValue text) : of text = .plain text := by
  unfold of
  split
  · rename_i written
    cases isValue _ written
  · rename_i written
    cases isValue _ written
  · rename_i written
    cases isValue _ written
  · rfl

end Form

theorem eq_flag_of_long {text name : SystemText} {option : Opt}
    (form : Form.of text = .long name none) (known : Opt.called? name = some option) :
    text = option.flag := by
  have written := Form.octets_of_long form
  rw [Opt.called?_eq_some_iff.mp known, Option.elim_none, List.append_nil,
    ← option.octets_flag] at written
  exact congrArg SystemText.mk written

theorem eq_joined_of_long {text name value : SystemText} {option : Opt}
    (form : Form.of text = .long name (some value)) (known : Opt.called? name = some option) :
    text = option.flag ++ "=" ++ value := by
  have written := Form.octets_of_long form
  rw [Opt.called?_eq_some_iff.mp known, Option.elim_some, ← List.cons_append, ← List.cons_append,
    ← option.octets_flag] at written
  refine congrArg SystemText.mk (written.trans ?_)
  exact (List.append_assoc option.flag.octets [equals] value.octets).symm

/-- What can come first on a command line, by its form. -/
theorem spells_cons_iff {text : SystemText} {texts : List SystemText}
    {given : List (Opt × SystemText)} :
    Spells (text :: texts) given ↔
      match Form.of text with
      | .mark => texts = [] ∧ given = []
      | .long name none => ∃ option value rest later, Opt.called? name = some option ∧
          texts = value :: rest ∧ given = (option, value) :: later ∧ IsValue value ∧
            Spells rest later
      | .long name (some value) => ∃ option later, Opt.called? name = some option ∧
          given = (option, value) :: later ∧ Spells texts later
      | .short _ | .plain _ => False := by
  constructor
  · intro spells
    cases spells with
    | mark => exact ⟨rfl, rfl⟩
    | apart option isValue rest =>
      rw [Form.of_flag]
      exact ⟨option, _, _, _, Opt.called?_name option, rfl, rfl, isValue, rest⟩
    | joined option value rest =>
      rw [Form.of_joined]
      exact ⟨option, _, Opt.called?_name option, rfl, rest⟩
  · intro spelled
    split at spelled
    · rename_i form
      obtain ⟨rfl, rfl⟩ := spelled
      exact Form.text_of_mark form ▸ .mark
    · rename_i form
      obtain ⟨option, value, rest, later, known, rfl, rfl, isValue, spells⟩ := spelled
      exact eq_flag_of_long form known ▸ .apart option isValue spells
    · rename_i name value form
      obtain ⟨option, later, known, rfl, spells⟩ := spelled
      exact eq_joined_of_long form known ▸ .joined option value spells
    · exact spelled.elim
    · exact spelled.elim

theorem spells_nil_iff {given : List (Opt × SystemText)} : Spells [] given ↔ given = [] := by
  constructor
  · intro spells
    cases spells
    rfl
  · rintro rfl
    exact .nothing

/-- The name of an option asks for a value after it. -/
theorem spells_flag_iff {option : Opt} {texts : List SystemText}
    {given : List (Opt × SystemText)} :
    Spells (option.flag :: texts) given ↔ ∃ value rest later, texts = value :: rest ∧
      given = (option, value) :: later ∧ IsValue value ∧ Spells rest later := by
  simp only [spells_cons_iff, Form.of_flag, Opt.called?_name, Option.some.injEq, exists_and_left,
    exists_eq_left']

/-! ## Reading what is spelled -/

namespace Reading

variable {reading after : Reading}

/-- Takes options with values, one after the other. -/
def takeAll (reading : Reading) (given : List (Opt × SystemText)) :
    Except Stop Reading :=
  given.foldlM (fun reading (option, value) => orStop (reading.take option (some value))) reading

end Reading

theorem orStop_eq_ok_iff {settled : Reading × Option Refusal} {after : Reading} :
    Reading.orStop settled = .ok after ↔ settled = (after, none) := by
  obtain ⟨reading, _ | refusal⟩ := settled <;> simp [Reading.orStop]

/-- An option whose value was met is taken before anything else is read. -/
theorem readAll_met {reading after : Reading} {option : Opt} {value : SystemText}
    {texts : List SystemText} :
    readAll reading (some (option, some value)) texts = .ok after ↔
      ∃ middle, Reading.orStop (reading.take option (some value)) = .ok middle ∧
        readAll middle none texts = .ok after := by
  cases texts with
  | nil => simp [readAll, Reading.settle, orStop_eq_ok_iff]
  | cons text rest =>
    simp only [readAll]
    -- Whatever comes next, it is of no use unless the option can be taken.
    cases Form.of text with
    | mark => cases rest <;> simp [Reading.settle, orStop_eq_ok_iff]
    | plain text => simp
    | short letters =>
      simp only
      split <;> simp [bind_eq_ok_iff]
    | long name value? =>
      simp only
      split
      · cases value? <;> simp [bind_eq_ok_iff]
      · cases Opt.called? name with
        | none => simp
        | some other =>
          simp only [bind_eq_ok_iff, Reading.settle, orStop_eq_ok_iff, Prod.mk.injEq, and_true,
            exists_eq_left']

theorem called?_helpName : Opt.called? helpName = none := by
  rw [Opt.called?, text?_ofText]
  decide

/-- What can come first if no option waits for its value. -/
theorem readAll_cons_iff {reading after : Reading} {text : SystemText}
    {texts : List SystemText} :
    readAll reading none (text :: texts) = .ok after ↔
      match Form.of text with
      | .mark => texts = [] ∧ reading = after
      | .long name none => ∃ option, Opt.called? name = some option ∧
          readAll reading (some (option, none)) texts = .ok after
      | .long name (some value) => ∃ option, Opt.called? name = some option ∧
          ∃ middle, Reading.orStop (reading.take option (some value)) = .ok middle ∧
            readAll middle none texts = .ok after
      | .short _ | .plain _ => False := by
  simp only [readAll]
  cases Form.of text with
  | mark => cases texts <;> simp [Reading.settle, orStop_eq_ok_iff]
  | plain text => simp
  | short letters =>
    simp only
    split <;> simp [bind_eq_ok_iff]
  | long name value? =>
    simp only
    split
    · rename_i same
      cases value? <;> simp [same, called?_helpName, bind_eq_ok_iff]
    · cases known : Opt.called? name with
      | none => cases value? <;> simp [known]
      | some option => cases value? <;> simp [known, bind_eq_ok_iff, Reading.settle, Reading.orStop]

/-- An option that waits for its value takes the next text, if that can be one. -/
theorem readAll_waiting_iff {reading after : Reading} {option : Opt} {text : SystemText}
    {texts : List SystemText} :
    readAll reading (some (option, none)) (text :: texts) = .ok after ↔
      IsValue text ∧ ∃ middle, Reading.orStop (reading.take option (some text)) = .ok middle ∧
        readAll middle none texts = .ok after := by
  have refused : Reading.orStop (reading.settle (some (option, none))) =
      .error (.refused (.noValue option)) := rfl
  have isValue : IsValue text ↔ Form.of text = .plain text :=
    ⟨Form.of_isValue, fun form => (Form.isValue_of_plain form).2⟩
  simp only [readAll, refused, isValue]
  cases form : Form.of text with
  | mark => cases texts <;> simp
  | plain plain =>
    obtain ⟨rfl, -⟩ := Form.isValue_of_plain form
    simp [readAll_met]
  | short letters =>
    simp only
    split <;> simp [bind_eq_ok_iff]
  | long name value? =>
    simp only
    split
    · cases value? <;> simp [bind_eq_ok_iff]
    · cases Opt.called? name <;> simp [bind_eq_ok_iff]

theorem takeAll_cons_iff {reading after : Reading} {option : Opt} {value : SystemText}
    {given : List (Opt × SystemText)} :
    reading.takeAll ((option, value) :: given) = .ok after ↔
      ∃ middle, Reading.orStop (reading.take option (some value)) = .ok middle ∧
        middle.takeAll given = .ok after := bind_eq_ok_iff

/-- Whether the options that some texts spell lead from one state of reading to another. -/
def Reading.Leads (reading : Reading) (texts : List SystemText) (after : Reading) : Prop :=
  ∃ given, Spells texts given ∧ reading.takeAll given = .ok after

section

variable {reading after : Reading} {text : SystemText} {texts : List SystemText}
  {name : SystemText} {value : SystemText} {option : Opt}

theorem leads_nil_iff : reading.Leads [] after ↔ reading = after := by
  simp only [Reading.Leads, spells_nil_iff, exists_eq_left]
  exact Except.ok.injEq reading after ▸ Iff.rfl

theorem leads_mark_iff (form : Form.of text = .mark) :
    reading.Leads (text :: texts) after ↔ texts = [] ∧ reading = after := by
  simp only [Reading.Leads, spells_cons_iff, form, and_assoc, exists_and_left, exists_eq_left]
  exact and_congr_right fun _ => Except.ok.injEq reading after ▸ Iff.rfl

/-- An option that waits for its value is spelled before the rest. -/
theorem leads_long_iff (form : Form.of text = .long name none) :
    reading.Leads (text :: texts) after ↔
      ∃ option, Opt.called? name = some option ∧ reading.Leads (option.flag :: texts) after := by
  constructor
  · rintro ⟨given, spells, all⟩
    have first := spells_cons_iff.mp spells
    rw [form] at first
    obtain ⟨option, _, _, _, known, -⟩ := first
    rw [eq_flag_of_long form known] at spells
    exact ⟨option, known, given, spells, all⟩
  · rintro ⟨option, known, given, spells, all⟩
    exact ⟨given, eq_flag_of_long form known ▸ spells, all⟩

theorem leads_joined_iff (form : Form.of text = .long name (some value)) :
    reading.Leads (text :: texts) after ↔ ∃ option, Opt.called? name = some option ∧
      ∃ middle, Reading.orStop (reading.take option (some value)) = .ok middle ∧
        middle.Leads texts after := by
  simp only [Reading.Leads, spells_cons_iff, form]
  constructor
  · rintro ⟨_, ⟨option, given, known, rfl, spells⟩, all⟩
    obtain ⟨middle, taken, all⟩ := takeAll_cons_iff.mp all
    exact ⟨option, known, middle, taken, given, spells, all⟩
  · rintro ⟨option, known, middle, taken, given, spells, all⟩
    exact ⟨_, ⟨option, given, known, rfl, spells⟩, takeAll_cons_iff.mpr ⟨middle, taken, all⟩⟩

theorem not_leads_flag : ¬ reading.Leads [option.flag] after := by
  simp [Reading.Leads, spells_flag_iff]

theorem leads_flag_iff :
    reading.Leads (option.flag :: text :: texts) after ↔
      IsValue text ∧ ∃ middle, Reading.orStop (reading.take option (some text)) = .ok middle ∧
        middle.Leads texts after := by
  simp only [Reading.Leads, spells_flag_iff]
  constructor
  · rintro ⟨_, ⟨_, _, given, same, rfl, isValue, spells⟩, all⟩
    cases same
    obtain ⟨middle, taken, all⟩ := takeAll_cons_iff.mp all
    exact ⟨isValue, middle, taken, given, spells, all⟩
  · rintro ⟨isValue, middle, taken, given, spells, all⟩
    exact ⟨_, ⟨_, _, _, rfl, rfl, isValue, spells⟩, takeAll_cons_iff.mpr ⟨middle, taken, all⟩⟩

end

/-- What is read are the options that a command line gives. An option that waits for its value is
spelled before the rest. -/
theorem readAll_eq_ok_iff {reading after : Reading} (waiting : Option Opt)
    {texts : List SystemText} :
    readAll reading (waiting.map (·, none)) texts = .ok after ↔
      reading.Leads ((waiting.map Opt.flag).toList ++ texts) after := by
  induction texts generalizing reading waiting with
  | nil =>
    cases waiting with
    | none => exact Except.ok.injEq reading after ▸ leads_nil_iff.symm
    | some option =>
      refine iff_of_false (fun read => ?_) not_leads_flag
      cases read
  | cons text rest ih =>
    have alone (reading : Reading) : readAll reading none rest = .ok after ↔
        reading.Leads rest after := ih none
    have awaited (option : Opt) : readAll reading (some (option, none)) rest = .ok after ↔
        reading.Leads (option.flag :: rest) after := ih (some option)
    cases waiting with
    | none =>
      show readAll reading none (text :: rest) = .ok after ↔ reading.Leads (text :: rest) after
      rw [readAll_cons_iff]
      cases form : Form.of text with
      | short letters => simp [Reading.Leads, spells_cons_iff, form]
      | plain plain => simp [Reading.Leads, spells_cons_iff, form]
      | mark => exact (leads_mark_iff form).symm
      | long name value? =>
        cases value? with
        | none => simp only [awaited, leads_long_iff form]
        | some value => simp only [alone, leads_joined_iff form]
    | some option =>
      show readAll reading (some (option, none)) (text :: rest) = .ok after ↔
        reading.Leads (option.flag :: text :: rest) after
      simp only [readAll_waiting_iff, alone, leads_flag_iff]

end Seedbed.CommandLine
