import PageModules.CommandLine.Arguments
import PageModules.Proofs.Number.Integer

/-!
# Command lines as lists of items

The words of a command line belong together in items: a flag with its value, or the place of the
document.  A command line is read item by item (`Item.read_words`), so of the values of a flag the
last one counts (`Item.foldl_apply`), and the command lines that ask for a conversion are exactly
those of well-formed items (`Request.ofWords_eq_ok_iff`).
-/

namespace PageModules.CommandLine

/-! ### Items -/

/-- What belongs together on a command line. -/
inductive Item where
  /-- The flag for the settings file with a path. -/
  | settingsFile (path : String)
  /-- The flag for the way of reading with a name. -/
  | mode (name : String)
  /-- The flag for the threshold with a number. -/
  | threshold (text : String)
  /-- The flag for several lines of output. -/
  | pretty
  /-- The flag for the check of the result. -/
  | validate
  /-- The sign for the standard input. -/
  | standardInput
  /-- A file with a document. -/
  | file (name : String)
deriving DecidableEq

namespace Item

/-- The words of an item. -/
def words : Item → List String
  | settingsFile path => ["--config", path]
  | mode name => ["--mode", name]
  | threshold text => ["--threshold", text]
  | pretty => ["--pretty"]
  | validate => ["--validate"]
  | standardInput => ["-"]
  | file name => [name]

/-- The settings file that an item names. -/
def settingsFile? : Item → Option String
  | settingsFile path => some path
  | _ => none

/-- The way of reading that an item names. -/
def mode? : Item → Option String
  | mode name => some name
  | _ => none

/-- The threshold that an item sets. -/
def threshold? : Item → Option ℕ
  | threshold text => Integer.unsigned32? text
  | _ => none

/-- The file that an item says to read, or that it says to read none. -/
def input? : Item → Option (Option String)
  | standardInput => some none
  | file name => some (some name)
  | _ => none

/-- The last of the values that items have. -/
def last? {α : Type} (value? : Item → Option α) (items : List Item) : Option α :=
  (items.filterMap value?).getLast?

/-- The threshold is a number, and the name of a file is no flag. -/
def IsValid : Item → Prop
  | threshold text => ∃ n, Integer.unsigned32? text = some n
  | file name => Word.ofText name = .file name
  | _ => True

/-- No file is named while another one is; `named` says whether one is at the start. -/
def NamesOneFile (named : Bool) : List Item → Prop
  | [] => True
  | item :: rest =>
    match item.input? with
    | none => NamesOneFile named rest
    | some none => NamesOneFile false rest
    | some (some _) => named = false ∧ NamesOneFile true rest

/-- Items that make up a command line. -/
structure AreWellFormed (items : List Item) : Prop where
  /-- Each item is valid. -/
  valid : ∀ item ∈ items, item.IsValid
  /-- There is one document at a time. -/
  oneFile : NamesOneFile false items

/-! ### What items say -/

/-- The arguments with what an item says. -/
def apply (a : Arguments) : Item → Arguments
  | settingsFile path => { a with settingsFile := some path }
  | mode name => { a with mode := some name }
  | threshold text => { a with threshold := (Integer.unsigned32? text).or a.threshold }
  | pretty => { a with pretty := true }
  | validate => { a with validate := true }
  | standardInput => { a with input := none }
  | file name => { a with input := some name }

theorem last?_cons {α : Type} (value? : Item → Option α) (item : Item) (rest : List Item) :
    last? value? (item :: rest) = (last? value? rest).or (value? item) := by
  unfold last?
  cases h : value? item with
  | none => rw [List.filterMap_cons_none h, Option.or_none]
  | some v =>
    rw [List.filterMap_cons_some h, List.getLast?_cons]
    cases (rest.filterMap value?).getLast? <;> rfl

/-- What the last item says counts, where each item puts its value in place of the one before. -/
theorem foldl_apply {α : Type} (value? : Item → Option α) (get : Arguments → Option α)
    (h : ∀ a item, get (apply a item) = (value? item).or (get a)) (items : List Item)
    (a : Arguments) : get (items.foldl apply a) = (last? value? items).or (get a) := by
  induction items generalizing a with
  | nil => rfl
  | cons item rest ih => rw [List.foldl_cons, ih, h, last?_cons, Option.or_assoc]

theorem foldl_apply_flag (flag : Item) (get : Arguments → Bool)
    (h : ∀ a item, get (apply a item) = (item == flag || get a)) (items : List Item)
    (a : Arguments) : get (items.foldl apply a) = (items.contains flag || get a) := by
  induction items generalizing a with
  | nil => rfl
  | cons item rest ih =>
    rw [List.foldl_cons, ih, h, List.contains_cons, Bool.beq_comm, Bool.or_assoc, Bool.or_left_comm]

end Item

/-- The arguments that items make up. -/
def Arguments.ofItems (items : List Item) : Arguments where
  input := (Item.last? Item.input? items).getD none
  settingsFile := Item.last? Item.settingsFile? items
  mode := Item.last? Item.mode? items
  threshold := Item.last? Item.threshold? items
  pretty := items.contains .pretty
  validate := items.contains .validate

namespace Item

theorem foldl_apply_start (items : List Item) :
    items.foldl apply {} = Arguments.ofItems items := by
  have hinput := foldl_apply input? (fun a => some a.input)
    (fun a item => by cases item <;> rfl) items {}
  have hsettingsFile := foldl_apply settingsFile? Arguments.settingsFile
    (fun a item => by cases item <;> rfl) items {}
  have hmode := foldl_apply mode? Arguments.mode
    (fun a item => by cases item <;> rfl) items {}
  have hthreshold := foldl_apply threshold? Arguments.threshold
    (fun a item => by cases item <;> rfl) items {}
  have hpretty := foldl_apply_flag .pretty Arguments.pretty
    (fun a item => by cases item <;> rfl) items {}
  have hvalidate := foldl_apply_flag .validate Arguments.validate
    (fun a item => by cases item <;> rfl) items {}
  -- The sign for the standard input takes a file back, so there may be a last input that is none.
  have hread : (items.foldl apply {}).input = (last? input? items).getD none := by
    generalize last? input? items = last at hinput
    cases last <;> simpa using hinput
  cases hstate : items.foldl apply {}
  simp_all [Arguments.ofItems]

/-! ### Reading -/

/-- A valid item is read as what it says, if it names no second file. -/
theorem read_words {item : Item} (h : item.IsValid) {a : Arguments}
    (hfile : ∀ name, item = .file name → a.input = none) (rest : List String) :
    Request.read a (item.words ++ rest) = Request.read (apply a item) rest := by
  cases item with
  | settingsFile path => rfl
  | mode name => rfl
  | threshold text =>
    obtain ⟨n, hn⟩ := h
    have hword : Word.ofText "--threshold" = .threshold := by decide
    simp [words, Request.read, hword, Integer.readUnsigned32_eq_ok_iff.mpr hn, hn, apply]
  | pretty => rfl
  | validate => rfl
  | standardInput => rfl
  | file name =>
    have hword : Word.ofText name = .file name := h
    simp [words, Request.read, hword, hfile name rfl, apply]

theorem namesOneFile_cons {a : Arguments} {item : Item} {rest : List Item} :
    NamesOneFile a.input.isSome (item :: rest) ↔
      (∀ name, item = .file name → a.input = none) ∧
        NamesOneFile (apply a item).input.isSome rest := by
  cases item <;> simp [NamesOneFile, input?, apply]

/-- A command line of valid items is read as what they say together. -/
theorem read_flatMap_words {items : List Item} (hvalid : ∀ item ∈ items, item.IsValid)
    {a : Arguments} (hone : NamesOneFile a.input.isSome items) :
    Request.read a (items.flatMap words) = .ok (.conversion (items.foldl apply a)) := by
  -- Whether a file is named already is in the arguments that are read so far.
  induction items generalizing a with
  | nil => simp [Request.read]
  | cons item rest ih =>
    obtain ⟨hitem, hrest⟩ := List.forall_mem_cons.mp hvalid
    obtain ⟨hfile, hone⟩ := namesOneFile_cons.mp hone
    rw [List.flatMap_cons, read_words hitem hfile, ih hrest hone, List.foldl_cons]

/-- The words belong to valid items, which turn the arguments `a` into `b`. -/
def Spell (words : List String) (a b : Arguments) : Prop :=
  ∃ items : List Item, (∀ item ∈ items, item.IsValid) ∧ NamesOneFile a.input.isSome items ∧
    words = items.flatMap Item.words ∧ b = items.foldl apply a

theorem Spell.cons (item : Item) (hitem : item.IsValid) {a b : Arguments}
    (hfile : ∀ name, item = .file name → a.input = none) {rest : List String}
    (h : Spell rest (apply a item) b) : Spell (item.words ++ rest) a b := by
  obtain ⟨items, hvalid, hone, rfl, rfl⟩ := h
  exact ⟨item :: items, List.forall_mem_cons.mpr ⟨hitem, hvalid⟩,
    namesOneFile_cons.mpr ⟨hfile, hone⟩, rfl, rfl⟩

end Item

/-- How a word is written, except for the flag for help, which is written in two ways. -/
def Word.spelling? : Word → Option String
  | settingsFile => some "--config"
  | mode => some "--mode"
  | threshold => some "--threshold"
  | pretty => some "--pretty"
  | validate => some "--validate"
  | help => none
  | standardInput => some "-"
  | unknownFlag flag => some flag
  | file name => some name

theorem Word.eq_of_ofText {s t : String} {word : Word} (h : ofText s = word)
    (ht : word.spelling? = some t) : s = t := by
  subst h
  fun_cases ofText s <;> simp_all [ofText, spelling?]

/-- What is read as a conversion is spelled by items. -/
theorem Request.spell_of_read {words : List String} {a b : Arguments}
    (h : read a words = .ok (.conversion b)) : Item.Spell words a b := by
  fun_induction read a words with
  | case1 a => exact ⟨[], by simp, trivial, rfl, by simpa using h.symm⟩
  | case3 a word value rest hword ih =>
    obtain rfl := Word.eq_of_ofText hword rfl
    exact (ih h).cons (.settingsFile value) trivial nofun
  | case5 a word value rest hword ih =>
    obtain rfl := Word.eq_of_ofText hword rfl
    exact (ih h).cons (.mode value) trivial nofun
  | case7 a word value rest hword n hn ih =>
    obtain rfl := Word.eq_of_ofText hword rfl
    have hn := Integer.readUnsigned32_eq_ok_iff.mp hn
    have happly : { a with threshold := some n } = Item.apply a (.threshold value) := by
      simp [Item.apply, hn]
    exact (happly ▸ ih h).cons (.threshold value) ⟨n, hn⟩ nofun
  | case9 a word rest hword ih =>
    obtain rfl := Word.eq_of_ofText hword rfl
    exact (ih h).cons .pretty trivial nofun
  | case10 a word rest hword ih =>
    obtain rfl := Word.eq_of_ofText hword rfl
    exact (ih h).cons .validate trivial nofun
  | case12 a word rest hword ih =>
    obtain rfl := Word.eq_of_ofText hword rfl
    exact (ih h).cons .standardInput trivial nofun
  | case15 a word name rest hword hnone ih =>
    obtain rfl := Word.eq_of_ofText hword rfl
    exact (ih h).cons (.file word) hword fun _ _ => by simpa using hnone
  -- The other words end the reading.
  | _ => simp at h

/-- The command lines that ask for a conversion are those of well-formed items, and each item says
its part of what is asked for. -/
theorem Request.ofWords_eq_ok_iff {words : List String} {a : Arguments} :
    ofWords words = .ok (.conversion a) ↔
      ∃ items, Item.AreWellFormed items ∧ words = items.flatMap Item.words ∧
        a = Arguments.ofItems items := by
  constructor
  · intro h
    obtain ⟨items, hvalid, hone, hwords, ha⟩ := spell_of_read h
    exact ⟨items, ⟨hvalid, hone⟩, hwords, ha.trans (Item.foldl_apply_start items)⟩
  · rintro ⟨items, h, rfl, rfl⟩
    rw [← Item.foldl_apply_start]
    exact Item.read_flatMap_words h.valid h.oneFile

end PageModules.CommandLine
