import PageModules.CommandLine.Run
import PageModules.Proofs.CommandLine.Arguments

/-!
# Documents on command lines

Any words are entries, right or wrong: a word outside of the values of flags, with its value if it
takes one.  Reading goes from entry to entry, and what it comes to describes all of them
(`describes_read`).  So a file that is named right behind another one makes a command line fail
before anything is read, but with the sign for the standard input between them the second file takes
the place of the first one (`run_of_documents`).
-/

namespace PageModules.CommandLine

/-! ### Entries -/

/-- Whether the next word is the value of a flag. -/
def Word.takesValue : Word → Bool
  | settingsFile => true
  | mode => true
  | threshold => true
  | _ => false

/-- A word of a command line outside of the values of flags. -/
structure Entry where
  /-- What the word is. -/
  word : Word
  /-- The value behind the word, if it takes one and is not the last word. -/
  value? : Option String
deriving DecidableEq

/-- The entries of a command line, whether they are right or wrong. -/
def entries : List String → List Entry
  | [] => []
  | [w] => [⟨.ofText w, none⟩]
  | w :: value :: rest =>
    if (Word.ofText w).takesValue then ⟨.ofText w, some value⟩ :: entries rest
    else ⟨.ofText w, none⟩ :: entries (value :: rest)

namespace Entry

/-- A flag without the value that it takes, a threshold that is no number, or a flag that does not
exist. -/
def IsWrong : Entry → Prop
  | ⟨.settingsFile, none⟩ => True
  | ⟨.mode, none⟩ => True
  | ⟨.threshold, none⟩ => True
  | ⟨.threshold, some text⟩ => Integer.unsigned32? text = none
  | ⟨.unknownFlag _, _⟩ => True
  | _ => False

/-- The document that an entry names: a file, or `none` for the standard input. -/
def document? : Entry → Option (Option String)
  | ⟨.file name, _⟩ => some (some name)
  | ⟨.standardInput, _⟩ => some none
  | _ => none

end Entry

/-- The documents that are named on a command line, in order. -/
def documents (words : List String) : List (Option String) :=
  (entries words).filterMap (·.document?)

/-- A file is named right behind another one, without the standard input between them. -/
def Clash (documents : List (Option String)) : Prop :=
  ∃ a b, [some a, some b] <:+: documents

theorem clash_cons_cons_iff {d d' : Option String} {documents : List (Option String)} :
    Clash (d :: d' :: documents) ↔ (d.isSome ∧ d'.isSome) ∨ Clash (d' :: documents) := by
  constructor
  · rintro ⟨a, b, h⟩
    rcases List.infix_cons_iff.mp h with h | h
    · obtain ⟨hd, h⟩ := List.cons_prefix_cons.mp h
      obtain ⟨hd', -⟩ := List.cons_prefix_cons.mp h
      exact .inl ⟨hd ▸ rfl, hd' ▸ rfl⟩
    · exact .inr ⟨a, b, h⟩
  · rintro (⟨hd, hd'⟩ | ⟨a, b, h⟩)
    · obtain ⟨a, rfl⟩ := Option.isSome_iff_exists.mp hd
      obtain ⟨b, rfl⟩ := Option.isSome_iff_exists.mp hd'
      exact ⟨a, b, (List.prefix_append [some a, some b] documents).isInfix⟩
    · exact ⟨a, b, h.trans (List.suffix_cons _ _).isInfix⟩

theorem not_clash_singleton (d : Option String) : ¬Clash [d] := by
  rintro ⟨a, b, h⟩
  have hlength := h.length_le
  simp at hlength

/-- Where nothing is named yet, the first document clashes with none. -/
theorem clash_none_cons_iff {documents : List (Option String)} :
    Clash (none :: documents) ↔ Clash documents := by
  cases documents with
  | nil => exact iff_of_false (not_clash_singleton none) fun ⟨_, _, h⟩ => by simpa using h.length_le
  | cons d documents => simp [clash_cons_cons_iff]

section

variable {w : String} {word : Word} (hword : Word.ofText w = word)
include hword

theorem entries_singleton : entries [w] = ⟨word, none⟩ :: entries [] := by
  rw [← hword]
  rfl

theorem entries_cons (h : word.takesValue = false) (rest : List String) :
    entries (w :: rest) = ⟨word, none⟩ :: entries rest := by
  cases rest with
  | nil => exact entries_singleton hword
  | cons value rest => rw [entries, hword, h, if_neg Bool.false_ne_true]

theorem entries_cons_value (h : word.takesValue = true) (value : String) (rest : List String) :
    entries (w :: value :: rest) = ⟨word, some value⟩ :: entries rest := by
  rw [entries, hword, if_pos h]

end

/-- What an outcome of reading says about the words, where `a` has been read already. -/
def Describes (a : Arguments) (words : List String) : Except ArgumentError Request → Prop
  | .ok .usage => ∃ entry ∈ entries words, entry.word = .help
  | .ok (.conversion b) =>
    (∀ entry ∈ entries words, ¬entry.IsWrong) ∧ ¬Clash (a.input :: documents words) ∧
      b.input = (documents words).getLast?.getD a.input
  | .error _ => (∃ entry ∈ entries words, entry.IsWrong) ∨ Clash (a.input :: documents words)

section

variable {a a' : Arguments} {words rest : List String} {entry : Entry}

theorem documents_eq (h : entries words = entry :: entries rest) :
    documents words = entry.document?.toList ++ documents rest := by
  rw [documents, documents, h, List.filterMap_cons]
  cases entry.document? <;> rfl

/-- An entry that is wrong makes the whole command line wrong. -/
theorem Describes.of_isWrong (h : entries words = entry :: entries rest) (hwrong : entry.IsWrong)
    (e : ArgumentError) : Describes a words (.error e) :=
  .inl ⟨entry, h ▸ List.mem_cons_self, hwrong⟩

/-- An entry that is right is read on from what the arguments say with it. -/
theorem Describes.cons (h : entries words = entry :: entries rest) (hright : ¬entry.IsWrong)
    (hclash : Clash (a.input :: documents words) ↔ Clash (a'.input :: documents rest))
    (hlast : (documents words).getLast?.getD a.input = (documents rest).getLast?.getD a'.input)
    {outcome : Except ArgumentError Request} (hrest : Describes a' rest outcome) :
    Describes a words outcome := by
  match outcome, hrest with
  | .ok .usage, ⟨help, hmem, hhelp⟩ => exact ⟨help, h ▸ List.mem_cons_of_mem _ hmem, hhelp⟩
  | .ok (.conversion b), ⟨hwrong, hnone, hinput⟩ =>
    refine ⟨?_, (not_congr hclash).mpr hnone, hinput.trans hlast.symm⟩
    rw [h]
    exact List.forall_mem_cons.mpr ⟨hright, hwrong⟩
  | .error _, .inl ⟨wrong, hmem, hwrong⟩ =>
    exact .inl ⟨wrong, h ▸ List.mem_cons_of_mem _ hmem, hwrong⟩
  | .error _, .inr hrest => exact .inr (hclash.mpr hrest)

theorem Describes.cons_setting (h : entries words = entry :: entries rest)
    (hright : ¬entry.IsWrong) (hnone : entry.document? = none) (hinput : a'.input = a.input)
    {outcome : Except ArgumentError Request} (hrest : Describes a' rest outcome) :
    Describes a words outcome := by
  have hdocuments : documents words = documents rest := by
    rw [documents_eq h, hnone]
    rfl
  refine hrest.cons h hright ?_ ?_ <;> rw [hdocuments, hinput]

theorem Describes.cons_document (h : entries words = entry :: entries rest)
    (hright : ¬entry.IsWrong) (hsome : entry.document? = some a'.input)
    (hfits : ¬(a.input.isSome ∧ a'.input.isSome)) {outcome : Except ArgumentError Request}
    (hrest : Describes a' rest outcome) : Describes a words outcome := by
  have hdocuments : documents words = a'.input :: documents rest := by
    rw [documents_eq h, hsome]
    rfl
  refine hrest.cons h hright ?_ ?_
  · rw [hdocuments, clash_cons_cons_iff, or_iff_right hfits]
  · rw [hdocuments, List.getLast?_cons, Option.getD_some]

end

/-- What is read describes the words. -/
theorem describes_read (a : Arguments) (words : List String) :
    Describes a words (Request.read a words) := by
  fun_induction Request.read a words with
  | case1 a => exact ⟨by simp [entries], not_clash_singleton a.input, rfl⟩
  -- A flag without the value that it takes.
  | case2 a word hword | case4 a word hword | case6 a word hword =>
    exact .of_isWrong (entries_singleton hword) (by simp [Entry.IsWrong]) _
  -- A flag with its value.
  | case3 a word value rest hword ih | case5 a word value rest hword ih =>
    have hentries := entries_cons_value hword rfl value rest
    exact ih.cons_setting hentries (by simp [Entry.IsWrong]) rfl rfl
  | case7 a word value rest hword n hn ih =>
    have hentries := entries_cons_value hword rfl value rest
    have hsome := Integer.readUnsigned32_eq_ok_iff.mp hn
    exact ih.cons_setting hentries (by simp [Entry.IsWrong, hsome]) rfl rfl
  | case8 a word value rest hword fault hfault =>
    have hentries := entries_cons_value hword rfl value rest
    have hnone : Integer.unsigned32? value = none := by
      rw [← Integer.toOption_readUnsigned32, hfault]
      rfl
    exact .of_isWrong hentries (by simp [Entry.IsWrong, hnone]) _
  -- A flag that takes no value.
  | case9 a word rest hword ih | case10 a word rest hword ih =>
    have hentries := entries_cons hword rfl rest
    exact ih.cons_setting hentries (by simp [Entry.IsWrong]) rfl rfl
  | case11 a word rest hword =>
    have hentries := entries_cons hword rfl rest
    exact ⟨_, hentries ▸ List.mem_cons_self, rfl⟩
  | case13 a word rest flag hword =>
    have hentries := entries_cons hword rfl rest
    exact .of_isWrong hentries (by simp [Entry.IsWrong]) _
  -- A document.
  | case12 a word rest hword ih =>
    have hentries := entries_cons hword rfl rest
    exact ih.cons_document hentries (by simp [Entry.IsWrong]) rfl (by simp)
  | case14 a word name rest hword hsome =>
    have hentries := entries_cons hword rfl rest
    have hdocuments : documents (word :: rest) = some name :: documents rest := by
      rw [documents_eq hentries]
      rfl
    refine .inr ?_
    rw [hdocuments, clash_cons_cons_iff]
    exact .inl ⟨hsome, rfl⟩
  | case15 a word name rest hword hnone ih =>
    have hentries := entries_cons hword rfl rest
    exact ih.cons_document hentries (by simp [Entry.IsWrong]) rfl (by simpa using hnone)

/-! ### Runs -/

/-- **Two files clash unless the standard input is named between them.**  A command line without
the flag for help fails before anything is read if one of its entries is wrong or if a file is named
right behind another one.  Otherwise it asks for the conversion of the document that is named last,
and the files in front of it do not count. -/
theorem run_of_documents {words : List String}
    (hhelp : ∀ entry ∈ entries words, entry.word ≠ .help) :
    ((∃ entry ∈ entries words, entry.IsWrong) ∨ Clash (documents words) →
        ∃ e, ∀ {m : Type → Type} [Monad m] (s : Surroundings m) (token : String),
          run s token words = pure (.ofFailure (.arguments e))) ∧
      ((∀ entry ∈ entries words, ¬entry.IsWrong) → ¬Clash (documents words) →
        ∃ a, Request.ofWords words = .ok (.conversion a) ∧
          a.input = (documents words).getLast?.getD none) := by
  have hdescribes := describes_read {} words
  rw [← Request.ofWords] at hdescribes
  rcases houtcome : Request.ofWords words with e | _ | a
  · rw [houtcome, Describes, clash_none_cons_iff] at hdescribes
    refine ⟨fun _ => ⟨e, fun s token => ?_⟩, fun hright hnone => ?_⟩
    · rw [run, houtcome]
    · exact absurd hdescribes (not_or.mpr ⟨by simpa using hright, hnone⟩)
  · rw [houtcome] at hdescribes
    obtain ⟨entry, hmem, hentry⟩ := hdescribes
    exact absurd hentry (hhelp entry hmem)
  · rw [houtcome, Describes, clash_none_cons_iff] at hdescribes
    obtain ⟨hright, hnone, hinput⟩ := hdescribes
    exact ⟨fun hwrong => absurd hwrong (not_or.mpr ⟨by simpa using hright, hnone⟩),
      fun _ _ => ⟨a, rfl, hinput⟩⟩

/-- A file clashes with one in front of it, whatever is the value of a flag; behind the sign for the
standard input it is read. -/
theorem run_of_documents_two :
    let clashing := ["a.html", "--mode", "-", "b.html"]
    let apart := ["a.html", "-", "--config", "c.toml", "b.html"]
    (∀ entry ∈ entries clashing, entry.word ≠ .help) ∧
      documents clashing = [some "a.html", some "b.html"] ∧
      (∃ e, ∀ {m : Type → Type} [Monad m] (s : Surroundings m) (token : String),
        run s token clashing = pure (.ofFailure (.arguments e))) ∧
      (∀ entry ∈ entries apart, entry.word ≠ .help) ∧
      documents apart = [some "a.html", none, some "b.html"] ∧
      ∃ a, Request.ofWords apart = .ok (.conversion a) ∧ a.input = some "b.html" := by
  intro clashing apart
  have hclashing : ∀ entry ∈ entries clashing, entry.word ≠ .help := by decide
  have happart : ∀ entry ∈ entries apart, entry.word ≠ .help := by decide
  have hclash : Clash (documents clashing) := ⟨"a.html", "b.html", List.infix_rfl⟩
  have hentries : entries apart = [⟨.file "a.html", none⟩, ⟨.standardInput, none⟩,
      ⟨.settingsFile, some "c.toml"⟩, ⟨.file "b.html", none⟩] := by decide
  have hright : ∀ entry ∈ entries apart, ¬entry.IsWrong := by
    rw [hentries]
    simp [Entry.IsWrong]
  have hnone : ¬Clash (documents apart) := by
    have hdocuments : documents apart = [some "a.html", none, some "b.html"] := by decide
    rw [hdocuments]
    simp [clash_cons_cons_iff, not_clash_singleton]
  exact ⟨hclashing, by decide, (run_of_documents hclashing).1 (.inr hclash), happart, by decide,
    (run_of_documents happart).2 hright hnone⟩

/-- With the sign for the standard input between them a second file takes the place of the first
one. -/
theorem not_exists_error_files_apart :
    let words := ["a.html", "-", "b.html"]
    (∀ entry ∈ entries words, entry.word ≠ .help) ∧
      [some "a.html", some "b.html"].Sublist (documents words) ∧
      ¬∃ e, Request.ofWords words = .error e := by
  intro words
  have hread : Request.ofWords words = .ok (.conversion { input := some "b.html" }) := rfl
  refine ⟨by decide, by decide, ?_⟩
  rintro ⟨e, he⟩
  rw [hread] at he
  cases he

end PageModules.CommandLine
