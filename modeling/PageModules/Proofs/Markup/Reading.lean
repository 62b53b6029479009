import PageModules.Markup.Document
import PageModules.Proofs.Markup.Attributes

/-!
# Reading a text into a tree

Each rule of tree construction keeps the attributes good that the tokens give, and what it asks to
be read again is such a token (`Builder.LeavesHolding`).  So whatever holds of the attributes that
are written in a text holds of the attributes of its elements (`Document.attrs_of_mem_elements`).
-/

namespace PageModules

variable {P : Attr → Prop} {attrs : List (String × String)}

namespace Builder

variable {b : Builder}

/-! ### The rules -/

/-- The attributes of the token that is read again become attributes with the property. -/
def Rest.Holds (P : Attr → Prop) : Rest → Prop
  | .done => True
  | .again token => token.Holds P
  | .asHtml token => token.Holds P

/-- What a rule leaves behind keeps the property. -/
def LeavesHolding (P : Attr → Prop) (r : Builder × Rest) : Prop := r.1.Holds P ∧ r.2.Holds P

/-- A rule that reads on leaves a builder. -/
@[simp] theorem leavesHolding_done : LeavesHolding P (b, .done) ↔ b.Holds P := and_iff_left trivial

/-- A token may be read again, by the rules of another mode. -/
@[simp] theorem leavesHolding_again {token : Token} :
    LeavesHolding P (b, .again token) ↔ b.Holds P ∧ token.Holds P := Iff.rfl

/-- A token may be read again as one of HTML. -/
@[simp] theorem leavesHolding_asHtml {token : Token} :
    LeavesHolding P (b, .asHtml token) ↔ b.Holds P ∧ token.Holds P := Iff.rfl

@[simp] theorem leavesHolding_ok : LeavesHolding P b.ok ↔ b.Holds P := leavesHolding_done

@[simp] theorem leavesHolding_retry {mode : InsertionMode} {token : Token} :
    LeavesHolding P (b.retry mode token) ↔ b.Holds P ∧ token.Holds P := Iff.rfl

@[simp] theorem leavesHolding_ite {c : Prop} [Decidable c] {r r' : Builder × Rest} :
    LeavesHolding P (if c then r else r') ↔
      if c then LeavesHolding P r else LeavesHolding P r' := by
  split <;> rfl

/-- Whichever of two rules is followed, what it leaves behind counts. -/
theorem leavesHolding_of_ite {c : Prop} [Decidable c] {r r' : Builder × Rest}
    (h : LeavesHolding P r) (h' : LeavesHolding P r') : LeavesHolding P (if c then r else r') := by
  split
  · exact h
  · exact h'

/-- The end of the text ends the templates that are open. -/
@[simp] theorem holds_templateEof (h : b.Holds P) : LeavesHolding P b.templateEof := by
  unfold templateEof
  split <;> simp [h]

section Rules

variable {token : Token}

/-- In front of the document type. -/
@[simp] theorem holds_initialStep (h : b.Holds P) (htoken : token.Holds P) :
    LeavesHolding P (b.initialStep token) := by
  unfold initialStep
  repeat' split
  all_goals simp_all

/-- In front of the root, which is made if its tag is not there. -/
@[simp] theorem holds_beforeHtmlStep (h : b.Holds P) (htoken : token.Holds P) :
    LeavesHolding P (b.beforeHtmlStep token) := by
  unfold beforeHtmlStep
  dsimp only
  repeat' split
  all_goals simp_all

/-- In front of the head, which is made if its tag is not there. -/
@[simp] theorem holds_beforeHeadStep (h : b.Holds P) (htoken : token.Holds P) :
    LeavesHolding P (b.beforeHeadStep token) := by
  unfold beforeHeadStep
  dsimp only
  repeat' split
  all_goals simp_all

/-- In the head. -/
@[simp] theorem holds_inHeadStep (h : b.Holds P) (htoken : token.Holds P) :
    LeavesHolding P (b.inHeadStep token) := by
  unfold inHeadStep
  dsimp only
  repeat' split
  all_goals simp_all

/-- Behind the head: what belongs into it is put there still. -/
@[simp] theorem holds_afterHeadStep (h : b.Holds P) (htoken : token.Holds P) :
    LeavesHolding P (b.afterHeadStep token) := by
  unfold afterHeadStep
  dsimp only
  repeat' split
  all_goals try simp_all
  exact holds_inHeadStep (b := b.push _) h htoken

/-- An element that is empty, in a table as elsewhere. -/
@[simp] theorem holds_voidTag (h : b.Holds P) (hattrs : Gives P attrs) (name : String) :
    (b.voidTag name attrs).Holds P := by
  unfold voidTag
  split <;> simp [h, hattrs]

/-- A link ends the one that is open. -/
@[simp] theorem holds_linkTag (h : b.Holds P) (hattrs : Gives P attrs) :
    (b.linkTag attrs).Holds P := by
  unfold linkTag
  dsimp only
  refine holds_insertFormatting (holds_reconstruct ?_) hattrs "a"
  split <;> simp [h]

/-- A start tag in the body. -/
@[simp] theorem holds_bodyStart (h : b.Holds P) (hattrs : Gives P attrs) (name : String)
    (closing : Bool) : LeavesHolding P (b.bodyStart name attrs closing) := by
  unfold bodyStart
  split
  case h_2 =>
    repeat' split
    · exact leavesHolding_ok.mpr h
    · exact leavesHolding_ok.mpr (h.of_forest (h.1.addAttrs _ hattrs.plainAttrs))
    · exact leavesHolding_ok.mpr h
  case h_6 =>
    dsimp only
    simp [h, hattrs]
  case h_13 =>
    have hopen : b.reconstruct.Holds P := holds_reconstruct h
    refine leavesHolding_ok.mpr (holds_insertFormatting ?_ hattrs "nobr")
    simp [hopen]
  case h_25 =>
    simp [h, hattrs]
  all_goals simp [h, hattrs]

/-- An end tag in the body. -/
@[simp] theorem holds_bodyEnd (h : b.Holds P) (name : String) :
    LeavesHolding P (b.bodyEnd name) := by
  unfold bodyEnd
  split <;> simp [h]

/-- **In the body**: text, start tags, end tags, comments and the end of the text. -/
@[simp] theorem holds_inBodyStep (h : b.Holds P) (htoken : token.Holds P) :
    LeavesHolding P (b.inBodyStep token) := by
  unfold inBodyStep
  split <;> simp_all

/-- In raw text, up to its end tag. -/
@[simp] theorem holds_textStep (h : b.Holds P) (htoken : token.Holds P) :
    LeavesHolding P (b.textStep token) := by
  unfold textStep
  split <;> simp_all

/-- What may not stand in a table is put in front of it by the rules of the body. -/
@[simp] theorem holds_foster (h : b.Holds P) (htoken : token.Holds P) :
    LeavesHolding P (b.foster token) :=
  holds_inBodyStep (b := { b with fostering := true, fostered := b.fostered + 1 }) h htoken

/-- Text in a table is kept back until it is known whether it is blank. -/
@[simp] theorem holds_tableChars (h : b.Holds P) (htoken : token.Holds P) :
    LeavesHolding P (b.tableChars token) := by
  unfold tableChars
  split <;> simp_all

/-- In a table. -/
@[simp] theorem holds_inTableStep (h : b.Holds P) (htoken : token.Holds P) :
    LeavesHolding P (b.inTableStep token) := by
  unfold inTableStep
  dsimp only
  repeat' split
  all_goals simp_all

/-- Text that was kept back is put into the table if it is blank, and else in front of it. -/
@[simp] theorem holds_flushTableText (h : b.Holds P) : b.flushTableText.Holds P := by
  have hfold {step : Builder → List Char → Builder}
      (hstep : ∀ (b : Builder) s, b.Holds P → (step b s).Holds P) (pieces : List (List Char)) :
      (pieces.foldl step { b with tableText := [] }).Holds P :=
    List.foldlRecOn pieces step h fun b hb s _ => hstep b s hb
  unfold flushTableText
  dsimp only
  split
  · exact hfold (fun b s hb => holds_putText hb s) _
  · exact hfold (fun b s hb => (holds_foster hb Token.holds_chars).1) _

/-- In the text of a table. -/
@[simp] theorem holds_inTableTextStep (h : b.Holds P) (htoken : token.Holds P) :
    LeavesHolding P (b.inTableTextStep token) := by
  unfold inTableTextStep
  split <;> simp_all

/-- In the caption of a table. -/
@[simp] theorem holds_inCaptionStep (h : b.Holds P) (htoken : token.Holds P) :
    LeavesHolding P (b.inCaptionStep token) := by
  unfold inCaptionStep
  dsimp only
  repeat' split
  all_goals simp_all

/-- In a group of columns. -/
@[simp] theorem holds_inColumnGroupStep (h : b.Holds P) (htoken : token.Holds P) :
    LeavesHolding P (b.inColumnGroupStep token) := by
  unfold inColumnGroupStep
  dsimp only
  repeat' split
  all_goals simp_all

/-- In the body of a table, around its rows. -/
@[simp] theorem holds_inTableBodyStep (h : b.Holds P) (htoken : token.Holds P) :
    LeavesHolding P (b.inTableBodyStep token) := by
  unfold inTableBodyStep
  dsimp only
  split <;> simp_all

/-- In a row of a table, around its cells. -/
@[simp] theorem holds_inRowStep (h : b.Holds P) (htoken : token.Holds P) :
    LeavesHolding P (b.inRowStep token) := by
  unfold inRowStep
  dsimp only
  split <;> simp_all

/-- In a cell of a table. -/
@[simp] theorem holds_inCellStep (h : b.Holds P) (htoken : token.Holds P) :
    LeavesHolding P (b.inCellStep token) := by
  unfold inCellStep
  split <;> simp_all

/-- In a list of options. -/
@[simp] theorem holds_inSelectStep (h : b.Holds P) (htoken : token.Holds P) :
    LeavesHolding P (b.inSelectStep token) := by
  unfold inSelectStep
  dsimp only
  repeat' split
  all_goals simp_all

/-- In a list of options in a table. -/
@[simp] theorem holds_inSelectInTableStep (h : b.Holds P) (htoken : token.Holds P) :
    LeavesHolding P (b.inSelectInTableStep token) := by
  unfold inSelectInTableStep
  dsimp only
  repeat' split
  all_goals simp_all

/-- In a template, which is read by the rules for its contents. -/
@[simp] theorem holds_inTemplateStep (h : b.Holds P) (htoken : token.Holds P) :
    LeavesHolding P (b.inTemplateStep token) := by
  unfold inTemplateStep
  dsimp only
  split <;> simp_all

/-- Behind the body, where comments belong to the root. -/
@[simp] theorem holds_afterBodyStep (h : b.Holds P) (htoken : token.Holds P) :
    LeavesHolding P (b.afterBodyStep token) := by
  unfold afterBodyStep
  dsimp only
  split
  case h_2 => exact leavesHolding_ok.mpr (holds_putKind h _ (by simp))
  all_goals simp_all

/-- In a frameset. -/
@[simp] theorem holds_inFramesetStep (h : b.Holds P) (htoken : token.Holds P) :
    LeavesHolding P (b.inFramesetStep token) := by
  unfold inFramesetStep
  dsimp only
  repeat' split
  all_goals simp_all

/-- Behind a frameset. -/
@[simp] theorem holds_afterFramesetStep (h : b.Holds P) (htoken : token.Holds P) :
    LeavesHolding P (b.afterFramesetStep token) := by
  unfold afterFramesetStep
  split <;> simp_all

/-- Behind the root of a document with a body. -/
@[simp] theorem holds_afterAfterBodyStep (h : b.Holds P) (htoken : token.Holds P) :
    LeavesHolding P (b.afterAfterBodyStep token) := by
  unfold afterAfterBodyStep
  dsimp only
  split <;> simp_all

/-- Behind the root of a document with a frameset. -/
@[simp] theorem holds_afterAfterFramesetStep (h : b.Holds P) (htoken : token.Holds P) :
    LeavesHolding P (b.afterAfterFramesetStep token) := by
  unfold afterAfterFramesetStep
  split <;> simp_all

/-- **Each rule keeps the attributes good.** -/
theorem holds_modeStep (h : b.Holds P) (htoken : token.Holds P) :
    LeavesHolding P (b.modeStep token) := by
  unfold modeStep
  split <;> simp [h, htoken]

/-- So do the rules for other vocabularies. -/
theorem holds_foreignStep (h : b.Holds P) (htoken : token.Holds P) :
    LeavesHolding P (b.foreignStep token) := by
  unfold foreignStep
  split
  case h_5 => split <;> simp [h]
  all_goals simp_all

/-- A document type is put in front of the root and has no attributes. -/
theorem holds_doctypeStep (h : b.Holds P) (d : Doctype) : (b.doctypeStep d).Holds P := by
  unfold doctypeStep
  split
  · exact holds_putKind h _ (by simp)
  · exact h

end Rules

/-! ### All tokens -/

/-- A token may be read again several times before a rule is done with it. -/
theorem holds_readFrom (h : b.Holds P) {token : Token} (htoken : token.Holds P) (asHtml : Bool)
    (fuel : ℕ) : (b.readFrom asHtml token fuel).Holds P := by
  induction fuel generalizing b asHtml token with
  | zero => exact h
  | succ fuel ih =>
    have hstep : LeavesHolding P
        (if !asHtml && b.isForeign token then b.foreignStep token else b.modeStep token) :=
      leavesHolding_of_ite (holds_foreignStep h htoken) (holds_modeStep h htoken)
    unfold readFrom
    generalize (if !asHtml && b.isForeign token then _ else _ : Builder × Rest) = r at hstep ⊢
    obtain ⟨b', rest⟩ := r
    cases rest with
    | done => exact hstep.1
    | again token => exact ih hstep.1 hstep.2 _
    | asHtml token => exact ih hstep.1 hstep.2 _

theorem holds_readToken (h : b.Holds P) {token : Token} (htoken : token.Holds P) :
    (b.readToken token).Holds P :=
  holds_readFrom h htoken _ _

/-- Text is read in pieces, as each may be for another mode. -/
theorem holds_readChars (h : b.Holds P) (s : List Char) (fuel : ℕ) :
    (b.readChars s fuel).Holds P := by
  induction fuel generalizing b s with
  | zero => exact h
  | succ fuel ih =>
    unfold readChars
    split
    · exact h
    · split
      · exact ih (holds_readToken h Token.holds_chars) _
      · exact holds_readToken h Token.holds_chars

/-- A token is read by what it is: a text, a document type or any other. -/
theorem holds_read (h : b.Holds P) {token : Token} (htoken : token.Holds P) :
    (b.read token).Holds P := by
  unfold read
  dsimp only
  split
  · exact holds_readChars (b := { b with dropLineFeed := false, content := .data }) h _ _
  · exact holds_doctypeStep (b := { b with dropLineFeed := false, content := .data }) h _
  · exact holds_readToken (b := { b with dropLineFeed := false, content := .data }) h htoken

theorem holds_readAll (h : b.Holds P) {tokens : List Token}
    (htokens : ∀ token ∈ tokens, token.Holds P) : (b.readAll tokens).Holds P := by
  induction tokens generalizing b with
  | nil => exact h
  | cons token rest ih =>
    obtain ⟨htoken, hrest⟩ := List.forall_mem_cons.mp htokens
    have hread := holds_read h htoken
    unfold readAll
    dsimp only
    refine ih ?_ hrest
    split
    · exact hread
    · exact hread

/-- **Reading a text keeps the attributes good** that it gives. -/
theorem holds_run (h : b.Holds P) {text : List Char}
    (htext : ∀ a, Token.IsWritten text a → Gives P [a]) (bound : Token.Bound) {s : List Char}
    (hs : s <:+ text) (fuel : ℕ) : (b.run bound s fuel).Holds P := by
  -- The rest is a suffix of the text all along, so the attributes of each token are written in it.
  induction fuel generalizing b bound s with
  | zero => exact h
  | succ fuel ih =>
    have htaken := Token.isFrom_next b.content b.knowsSections bound s
    have hread : (b.readAll (Token.next b.content b.knowsSections bound s).tokens).Holds P := by
      refine holds_readAll h fun token htoken a ha => ?_
      exact htext a ((htaken.attrs token htoken a ha).mono hs.isInfix) a (List.mem_singleton_self a)
    unfold run
    dsimp only
    split
    · exact hread
    · exact ih hread _ (htaken.rest.trans hs)

end Builder

/-! ### The finished tree -/

theorem Node.mem_elementsAll_iff {e : Element} {ns : List Node} :
    e ∈ elementsAll ns ↔ ∃ n ∈ ns, e ∈ n.elements := by
  induction ns with
  | nil => simp [elementsAll]
  | cons n rest ih => simp [elementsAll, ih]

/-- A tree that is taken out of a forest has the attributes of the forest. -/
theorem Forest.Holds.toNode {f : Forest} (h : f.Holds P) (depth id : ℕ) :
    ∀ e ∈ (f.toNode depth id).elements, ∀ a ∈ e.tag.attrs, P a := by
  induction depth generalizing id with
  | zero => simp [Forest.toNode, Node.elements]
  | succ depth ih =>
    intro e he
    unfold Forest.toNode at he
    split at he
    · cases he
    · next c hcell =>
      have hbelow (hmem : e ∈ Node.elementsAll (c.children.toList.map (f.toNode depth))) :
          ∀ a ∈ e.tag.attrs, P a := by
        obtain ⟨n, hn, he⟩ := Node.mem_elementsAll_iff.mp hmem
        obtain ⟨i, -, rfl⟩ := List.mem_map.mp hn
        exact ih i e he
      obtain ⟨kind, _, _⟩ := c
      cases kind with
      | document => exact hbelow he
      | fragment => exact hbelow he
      | element tag =>
        rcases List.mem_cons.mp he with rfl | he
        · exact h id tag (by rw [tag?_eq, hcell]; rfl)
        · exact hbelow he
      | _ => cases he

/-- **The attributes of a document are written in its text**: what holds of all attributes that are
written in it holds of the attributes of its elements. -/
theorem Document.attrs_of_mem_elements {text : String}
    (htext : ∀ a, Token.IsWritten (characters (completed text)) a → Gives P [a]) {e : Element}
    (he : e ∈ (ofText text).elements) : ∀ a ∈ e.tag.attrs, P a := by
  have hstart : Builder.start.Holds P := ⟨fun id tag hid => ?_, by simp [Builder.start]⟩
  · have hrun := Builder.holds_run hstart htext none List.suffix_rfl
      ((characters (completed text)).length + 2)
    simp only [elements, ofText, build, Forest.toDocument] at he
    exact hrun.1.toNode _ _ e he
  · -- There is nothing but the document itself at the start.
    rw [Forest.tag?_eq] at hid
    match id with
    | 0 => cases hid
    | n + 1 => cases hid

end PageModules
