import PageModules.Markup.Rules
import PageModules.Proofs.Markup.Tags

/-!
# Attributes of built trees

Building a tree makes up no attributes: whatever holds of the attributes that the tags of a text
give holds of all attributes of the tree that is built of it.

Nodes are moved about while a tree is built, which leaves their tags alone (`Forest.tag?_append` and
its like).  Tags are made in a few places only, of a token or of an entry of the list of formatting
elements, whose attributes are those of an earlier token (`Builder.Holds`).  So a rule that reads a
token with good attributes keeps the attributes of the tree good.
-/

namespace PageModules

variable {P : Attr → Prop}

/-! ### Forests -/

/-- The tag of a cell that is an element. -/
def Cell.tag? (c : Cell) : Option Tag :=
  match c.kind with
  | .element tag => some tag
  | _ => none

namespace Forest

/-- All attributes of all elements have the property. -/
def Holds (P : Attr → Prop) (f : Forest) : Prop :=
  ∀ id tag, f.tag? id = some tag → ∀ a ∈ tag.attrs, P a

/-- The tag of a node is that of its cell. -/
theorem tag?_eq (f : Forest) (id : ℕ) : f.tag? id = (f.cells[id]?).bind Cell.tag? := by
  unfold tag?
  cases f.cells[id]? with
  | none => rfl
  | some c =>
    obtain ⟨kind, _, _⟩ := c
    cases kind <;> rfl

/-- A change of a cell that leaves its tag alone leaves all tags alone. -/
theorem tag?_modify {cells : Array Cell} {change : Cell → Cell}
    (hchange : ∀ c, (change c).tag? = c.tag?) (i id : ℕ) :
    tag? ⟨cells.modify i change⟩ id = tag? ⟨cells⟩ id := by
  rw [tag?_eq, tag?_eq, Array.getElem?_modify]
  split
  · rw [Option.bind_map]
    exact congrArg (Option.bind _) (funext hchange)
  · rfl

variable (f : Forest)

/-- A node that is taken out keeps its tag, and so do the others. -/
@[simp] theorem tag?_detach (i id : ℕ) : (f.detach i).tag? id = f.tag? id := by
  unfold detach
  split
  · rfl
  · rw [tag?_modify, tag?_modify] <;> intros <;> rfl

/-- A node that gets a new parent keeps its tag. -/
@[simp] theorem tag?_append (parent i id : ℕ) : (f.append parent i).tag? id = f.tag? id := by
  rw [← f.tag?_detach i id]
  unfold append
  dsimp only
  rw [tag?_modify, tag?_modify] <;> intros <;> rfl

/-- A node that is put in front of another one keeps its tag. -/
@[simp] theorem tag?_insertBefore (sibling i id : ℕ) :
    (f.insertBefore sibling i).tag? id = f.tag? id := by
  rw [← f.tag?_detach i id]
  unfold insertBefore
  dsimp only
  split
  · rfl
  · rw [tag?_modify, tag?_modify] <;> intros <;> rfl

/-- Children that are moved keep their tags. -/
@[simp] theorem tag?_moveChildren (source target id : ℕ) :
    (f.moveChildren source target).tag? id = f.tag? id := by
  unfold moveChildren
  rw [← Array.foldl_toList]
  induction (f.children source).toList generalizing f with
  | nil => rfl
  | cons i rest ih => rw [List.foldl_cons, ih, tag?_append]

/-- A text has no tag. -/
@[simp] theorem tag?_extendText (i : ℕ) (s : String) (id : ℕ) :
    (f.extendText i s).tag? id = f.tag? id := by
  refine tag?_modify (fun c => ?_) i id
  obtain ⟨kind, _, _⟩ := c
  cases kind <;> rfl

/-- A new node has the tag that it is made with. -/
theorem tag?_create (kind : CellKind) (id : ℕ) :
    (f.create kind).1.tag? id =
      if id = f.cells.size then Cell.tag? ⟨kind, none, #[]⟩ else f.tag? id := by
  rw [tag?_eq, tag?_eq, create, Array.getElem?_push]
  split <;> rfl

variable {f}

/-- The elements of a forest without new tags have the attributes that they had. -/
theorem Holds.of_tag?_eq {f' : Forest} (h : f.Holds P) (htag : ∀ id, f'.tag? id = f.tag? id) :
    f'.Holds P :=
  fun id tag hid => h id tag (htag id ▸ hid)

/-- A new node brings the attributes of its tag along. -/
theorem Holds.create (h : f.Holds P) (kind : CellKind)
    (hkind : ∀ tag, kind = .element tag → ∀ a ∈ tag.attrs, P a) : (f.create kind).1.Holds P := by
  intro id tag hid
  rw [tag?_create] at hid
  split at hid
  · cases kind with
    | element tag' =>
      cases hid
      exact hkind _ rfl
    | _ => cases hid
  · exact h id tag hid

/-- A new element does too; the fragment inside of a template has none. -/
theorem Holds.createElement (h : f.Holds P) {tag : Tag} (htag : ∀ a ∈ tag.attrs, P a) :
    (f.createElement tag).1.Holds P := by
  have hcreated : (f.create (.element tag)).1.Holds P :=
    h.create _ fun tag' heq => by
      cases heq
      exact htag
  unfold Forest.createElement
  dsimp only
  split
  · -- The contents of a template are a fragment, which has no tag.
    refine (hcreated.create .fragment (by simp)).of_tag?_eq fun id => ?_
    rw [tag?_modify, tag?_modify] <;> intros <;> rfl
  · exact hcreated

/-- Text that is put behind the last child joins a text that stands there. -/
theorem Holds.appendText (h : f.Holds P) (parent : ℕ) (s : String) :
    (f.appendText parent s).Holds P := by
  have hnew : ((f.create (.text s)).1.append parent (f.create (.text s)).2).Holds P :=
    (h.create _ (by simp)).of_tag?_eq (tag?_append _ _ _)
  unfold Forest.appendText
  split
  · split
    · exact h.of_tag?_eq (tag?_extendText f _ _)
    · exact hnew
  · exact hnew

/-- Text that is put in front of a node joins a text that stands there. -/
theorem Holds.insertTextBefore (h : f.Holds P) (sibling : ℕ) (s : String) :
    (f.insertTextBefore sibling s).Holds P := by
  unfold Forest.insertTextBefore
  split
  · exact h
  · split
    · exact h.of_tag?_eq (tag?_extendText f _ _)
    · exact (h.create (.text s) (by simp)).of_tag?_eq (tag?_insertBefore _ _ _)

/-- Attributes may be added to an element that is there already. -/
theorem Holds.addAttrs (h : f.Holds P) (i : ℕ) {attrs : List Attr} (hattrs : ∀ a ∈ attrs, P a) :
    (f.addAttrs i attrs).Holds P := by
  intro id tag hid a ha
  rw [tag?_eq, Forest.addAttrs, Array.getElem?_modify] at hid
  have hold (tag : Tag) (hid : (f.cells[id]?).bind Cell.tag? = some tag) (a : Attr)
      (ha : a ∈ tag.attrs) : P a := h id tag ((tag?_eq f id).trans hid) a ha
  split at hid
  · cases hcell : f.cells[id]? with
    | none =>
      rw [hcell] at hid
      cases hid
    | some c =>
      rw [hcell] at hid hold
      obtain ⟨kind, _, _⟩ := c
      cases kind with
      | element old =>
        cases hid
        rcases List.mem_append.mp ha with ha | ha
        · exact hold old rfl a ha
        · exact hattrs a (List.mem_of_mem_filter ha)
      | _ => cases hid
  · exact hold tag hid a ha

end Forest

/-! ### Tokens and formatting elements -/

/-- The attributes of a tag become attributes with the property, in whatever vocabulary. -/
def Gives (P : Attr → Prop) (attrs : List (String × String)) : Prop :=
  ∀ a ∈ attrs, P ⟨.none, a.1, a.2⟩ ∧ ∀ space, P (Builder.foreignAttr space a)

variable {attrs : List (String × String)}

@[simp] theorem gives_nil : Gives P [] := by simp [Gives]

/-- As attributes of HTML they have the property. -/
theorem Gives.plainAttrs (h : Gives P attrs) : ∀ a ∈ Builder.plainAttrs attrs, P a := by
  intro a ha
  obtain ⟨b, hb, rfl⟩ := List.mem_map.mp ha
  exact (h b hb).1

/-- As attributes of another vocabulary they have it too. -/
theorem Gives.foreignAttrs (h : Gives P attrs) (space : Vocabulary) :
    ∀ a ∈ attrs.map (Builder.foreignAttr space), P a := by
  intro a ha
  obtain ⟨b, hb, rfl⟩ := List.mem_map.mp ha
  exact (h b hb).2 space

/-- The attributes of a token become attributes with the property. -/
def Token.Holds (P : Attr → Prop) (token : Token) : Prop := Gives P token.attrs

@[simp] theorem Token.holds_startTag {name : String} {closing : Bool} :
    (startTag name attrs closing).Holds P ↔ Gives P attrs := Iff.rfl

/-- Only tags that start an element have attributes. -/
theorem Token.holds_of_attrs_eq_nil {token : Token} (h : token.attrs = []) : token.Holds P := by
  rw [Token.Holds, h]
  exact gives_nil

@[simp] theorem Token.holds_chars {s : List Char} : (chars s).Holds P := holds_of_attrs_eq_nil rfl
@[simp] theorem Token.holds_endTag {name : String} : (endTag name).Holds P :=
  holds_of_attrs_eq_nil rfl
@[simp] theorem Token.holds_eof : eof.Holds P := holds_of_attrs_eq_nil rfl

/-- The attributes of the tag that an entry keeps become attributes with the property. -/
def Formatting.Holds (P : Attr → Prop) : Formatting → Prop
  | .marker => True
  | .element _ _ attrs => Gives P attrs

namespace Builder

/-- All attributes of the tree have the property, and so do those of the elements that are made
again of an entry of the list of formatting elements. -/
def Holds (P : Attr → Prop) (b : Builder) : Prop :=
  b.forest.Holds P ∧ ∀ e ∈ b.formatting, e.Holds P

variable {b : Builder}

/-! ### The stack and the flags

What changes neither the nodes nor the formatting elements leaves the attributes alone. -/

/-- Only the nodes and the formatting elements count. -/
@[simp] theorem holds_frame {opened mode returnMode templateModes head form framesetOk quirks
    fostering fostered tableText dropLineFeed context content} :
    Holds P ⟨b.forest, opened, b.formatting, mode, returnMode, templateModes, head, form,
      framesetOk, quirks, fostering, fostered, tableText, dropLineFeed, context, content⟩ ↔
      b.Holds P := Iff.rfl

@[simp] theorem holds_push {id : ℕ} : (b.push id).Holds P ↔ b.Holds P := Iff.rfl
@[simp] theorem holds_pop : b.pop.Holds P ↔ b.Holds P := Iff.rfl
@[simp] theorem holds_popUntil {fits : Tag → Bool} :
    (b.popUntil fits).Holds P ↔ b.Holds P := Iff.rfl
@[simp] theorem holds_popUntilNamed {name : String} :
    (b.popUntilNamed name).Holds P ↔ b.Holds P := Iff.rfl
@[simp] theorem holds_popTo {fits : Tag → Bool} : (b.popTo fits).Holds P ↔ b.Holds P := Iff.rfl
@[simp] theorem holds_impliedEnds {implied : Tag → Bool} :
    (b.impliedEnds implied).Holds P ↔ b.Holds P := Iff.rfl
@[simp] theorem holds_impliedEndsExcept {name : String} :
    (b.impliedEndsExcept name).Holds P ↔ b.Holds P := Iff.rfl
@[simp] theorem holds_removeOpen {id : ℕ} : (b.removeOpen id).Holds P ↔ b.Holds P := Iff.rfl
@[simp] theorem holds_enter {mode : InsertionMode} : (b.enter mode).Holds P ↔ b.Holds P := Iff.rfl
@[simp] theorem holds_noFrameset : b.noFrameset.Holds P ↔ b.Holds P := Iff.rfl

@[simp] theorem holds_ite {c : Prop} [Decidable c] {b b' : Builder} :
    (if c then b else b').Holds P ↔ if c then b.Holds P else b'.Holds P := by
  split <;> rfl

@[simp] theorem holds_closeParagraph : b.closeParagraph.Holds P ↔ b.Holds P := Iff.rfl

@[simp] theorem holds_closeOpenParagraph : b.closeOpenParagraph.Holds P ↔ b.Holds P := by
  simp [closeOpenParagraph]

/-- Closing an item of a list takes elements off the stack. -/
@[simp] theorem holds_closeItem {names : List String} :
    (b.closeItem names).Holds P ↔ b.Holds P := by
  unfold closeItem
  split <;> simp

/-- Closing an element takes it off the stack with what is inside. -/
@[simp] theorem holds_closeAny {name : String} : (b.closeAny name).Holds P ↔ b.Holds P := by
  unfold closeAny
  split <;> simp

/-- The end of a form takes it off the stack, alone or with what is inside. -/
@[simp] theorem holds_endForm : b.endForm.Holds P ↔ b.Holds P := by
  unfold endForm
  repeat' split
  all_goals simp

@[simp] theorem holds_endOptions : b.endOptions.Holds P ↔ b.Holds P := by
  unfold endOptions
  repeat' split
  all_goals simp

@[simp] theorem holds_closeRows : b.closeRows.Holds P ↔ b.Holds P := Iff.rfl
@[simp] theorem holds_closeRow : b.closeRow.Holds P ↔ b.Holds P := Iff.rfl

/-! ### The formatting elements -/

/-- Of fewer formatting elements none are made that were not there. -/
theorem Holds.of_subset (h : b.Holds P) {formatting : List Formatting}
    (hsub : formatting ⊆ b.formatting) : Holds P { b with formatting := formatting } :=
  ⟨h.1, fun e he => h.2 e (hsub he)⟩

/-- A formatting element may be forgotten. -/
@[simp] theorem holds_removeFormatting (h : b.Holds P) (id : ℕ) : (b.removeFormatting id).Holds P :=
  h.of_subset List.eraseP_subset

/-- Formatting elements are forgotten back to a marker. -/
@[simp] theorem holds_clearFormatting (h : b.Holds P) : b.clearFormatting.Holds P :=
  h.of_subset fun _ he => List.dropWhile_subset _ (List.drop_subset _ _ he)

/-- A marker has no attributes. -/
@[simp] theorem holds_markFormatting : b.markFormatting.Holds P ↔ b.Holds P := by
  constructor
  · exact fun h => ⟨h.1, fun e he => h.2 e (List.mem_cons_of_mem _ he)⟩
  · refine fun h => ⟨h.1, fun e he => ?_⟩
    rcases List.mem_cons.mp he with rfl | he
    · trivial
    · exact h.2 e he

@[simp] theorem holds_closeCell (h : b.Holds P) : b.closeCell.Holds P := by simp [closeCell, h]

@[simp] theorem holds_endTemplate (h : b.Holds P) : b.endTemplate.Holds P := by
  unfold endTemplate
  split <;> simp [h]

/-! ### New nodes -/

/-- A builder keeps its formatting elements when its nodes change. -/
theorem Holds.of_forest (h : b.Holds P) {forest : Forest} (hforest : forest.Holds P) :
    Holds P { b with forest := forest } :=
  ⟨hforest, h.2⟩

/-- A node may be put into any place. -/
theorem holds_putAt (h : b.Holds P) (p : InsertionPlace) (id : ℕ) : (b.putAt p id).Holds P := by
  unfold putAt
  repeat' split
  · exact h.of_forest (h.1.of_tag?_eq (by simp))
  · exact h.of_forest (h.1.of_tag?_eq (by simp))
  · exact h.of_forest (h.1.of_tag?_eq (by simp))

/-- Text has no attributes, wherever it is put. -/
@[simp] theorem holds_putText (h : b.Holds P) (s : List Char) : (b.putText s).Holds P := by
  unfold putText
  split
  · exact h
  · dsimp only
    repeat' split
    · exact h.of_forest (h.1.appendText _ _)
    · exact h.of_forest (h.1.insertTextBefore _ _)
    · exact h.of_forest (h.1.appendText _ _)

/-- A comment has no attributes. -/
@[simp] theorem holds_putComment (h : b.Holds P) (s : String) : (b.putComment s).Holds P :=
  holds_putAt (h.of_forest (h.1.create _ (by simp))) _ _

/-- A node that is no element has no attributes. -/
theorem holds_putKind (h : b.Holds P) (parent : ℕ) {kind : CellKind}
    (hkind : ∀ tag, kind ≠ .element tag) : (b.putKind parent kind).Holds P := by
  have hcreated : (b.forest.create kind).1.Holds P :=
    h.1.create _ fun tag heq => absurd heq (hkind tag)
  exact h.of_forest (hcreated.of_tag?_eq (Forest.tag?_append _ _ _))

@[simp] theorem holds_documentComment (h : b.Holds P) (s : String) :
    (b.documentComment s).Holds P :=
  holds_putKind h _ (by simp)

/-- **A new element has the attributes of its tag.** -/
theorem holds_create (h : b.Holds P) (tag : Tag) (htag : ∀ a ∈ tag.attrs, P a) :
    (b.create tag).1.Holds P :=
  h.of_forest (h.1.createElement htag)

theorem holds_insertClosed (h : b.Holds P) {tag : Tag} (htag : ∀ a ∈ tag.attrs, P a) :
    (b.insertClosed tag).1.Holds P :=
  holds_putAt (holds_create h tag htag) _ _

theorem holds_insertOpen (h : b.Holds P) {tag : Tag} (htag : ∀ a ∈ tag.attrs, P a) :
    (b.insertOpen tag).1.Holds P :=
  holds_insertClosed h htag

@[simp] theorem holds_insertOpen_html (h : b.Holds P) (hattrs : Gives P attrs) (name : String) :
    (b.insertOpen ⟨.html, name, plainAttrs attrs⟩).1.Holds P :=
  holds_insertOpen h hattrs.plainAttrs

@[simp] theorem holds_insertClosed_html (h : b.Holds P) (hattrs : Gives P attrs) (name : String) :
    (b.insertClosed ⟨.html, name, plainAttrs attrs⟩).1.Holds P :=
  holds_insertClosed h hattrs.plainAttrs

@[simp] theorem holds_insert (h : b.Holds P) (hattrs : Gives P attrs) (name : String) :
    (b.insert name attrs).Holds P :=
  holds_insertOpen_html h hattrs name

@[simp] theorem holds_insertVoid (h : b.Holds P) (hattrs : Gives P attrs) (name : String) :
    (b.insertVoid name attrs).Holds P :=
  holds_insertClosed_html h hattrs name

@[simp] theorem holds_insertText (h : b.Holds P) (hattrs : Gives P attrs) (name : String)
    (content : Content) : (b.insertText name attrs content).Holds P :=
  holds_insert h hattrs name

/-- An element of another vocabulary gets its attributes in the spelling of that vocabulary. -/
@[simp] theorem holds_insertForeign (h : b.Holds P) (hattrs : Gives P attrs) (space : Vocabulary)
    (name : String) (closing : Bool) : (b.insertForeign space name attrs closing).Holds P := by
  unfold insertForeign
  split
  · exact holds_insertClosed h (hattrs.foreignAttrs space)
  · exact holds_insertOpen h (hattrs.foreignAttrs space)

/-- The root gets the attributes of its tag. -/
@[simp] theorem holds_createRoot (h : b.Holds P) (hattrs : Gives P attrs) :
    (b.createRoot attrs).Holds P := by
  have hcreated := holds_create h ⟨.html, "html", plainAttrs attrs⟩ hattrs.plainAttrs
  exact hcreated.of_forest (hcreated.1.of_tag?_eq (Forest.tag?_append _ _ _))

@[simp] theorem holds_openHead (h : b.Holds P) (hattrs : Gives P attrs) :
    (b.openHead attrs).Holds P :=
  holds_insertOpen_html h hattrs "head"

/-- A second tag of the root adds its attributes to the root. -/
@[simp] theorem holds_htmlTag (h : b.Holds P) (hattrs : Gives P attrs) :
    (b.htmlTag attrs).Holds P := by
  unfold htmlTag
  split
  · exact h
  · exact h.of_forest (h.1.addAttrs _ hattrs.plainAttrs)

/-- A frameset takes the place of the body. -/
@[simp] theorem holds_framesetTag (h : b.Holds P) (hattrs : Gives P attrs) :
    (b.framesetTag attrs).Holds P := by
  unfold framesetTag
  repeat' split
  · exact h
  · exact h
  · apply holds_enter.mpr
    apply holds_insert _ hattrs
    exact ⟨h.1.of_tag?_eq (Forest.tag?_detach _ _), h.2⟩

/-! ### Formatting elements that are opened again -/

/-- An element with good attributes may become a formatting element. -/
theorem holds_cons (h : b.Holds P) {e : Formatting} (he : e.Holds P) :
    Holds P { b with formatting := e :: b.formatting } :=
  ⟨h.1, List.forall_mem_cons.mpr ⟨he, h.2⟩⟩

/-- A formatting element is opened and kept for later. -/
@[simp] theorem holds_insertFormatting (h : b.Holds P) (hattrs : Gives P attrs) (name : String) :
    (b.insertFormatting name attrs).Holds P := by
  unfold insertFormatting
  dsimp only
  refine holds_cons (holds_insertOpen ?_ hattrs.plainAttrs) hattrs
  split
  · split
    · exact h.of_subset List.eraseIdx_subset
    · exact h
  · exact h

/-- Elements that are opened again get the attributes of their entries. -/
theorem holds_reopen (closed done : List Formatting) (h : b.Holds P)
    (hclosed : ∀ e ∈ closed, e.Holds P) (hdone : ∀ e ∈ done, e.Holds P) :
    (b.reopen done closed).Holds P := by
  induction closed generalizing b done with
  | nil => exact ⟨h.1, hdone⟩
  | cons e rest ih =>
    obtain ⟨he, hrest⟩ := List.forall_mem_cons.mp hclosed
    cases e with
    | marker => exact ih _ h hrest (List.forall_mem_cons.mpr ⟨trivial, hdone⟩)
    | element id name attrs =>
      exact ih _ (holds_insertOpen h (Gives.plainAttrs he)) hrest
        (List.forall_mem_cons.mpr ⟨he, hdone⟩)

/-- **Formatting elements are opened again** with the attributes that they had. -/
@[simp] theorem holds_reconstruct (h : b.Holds P) : b.reconstruct.Holds P := by
  unfold reconstruct
  dsimp only
  split
  · exact h
  · refine holds_reopen _ _ h (fun e he => ?_) fun e he => h.2 e (List.mem_of_mem_drop he)
    exact h.2 e (List.takeWhile_subset _ (List.mem_reverse.mp he))

/-- The elements between a formatting element and a block are made again of their entries. -/
theorem holds_adoptBetween (block : ℕ) {a : Adoption} (round : ℕ) (between : List ℕ)
    (h : a.builder.Holds P) : (adoptBetween block a round between).builder.Holds P := by
  induction between generalizing a round with
  | nil => exact h
  | cons node rest ih =>
    unfold adoptBetween
    dsimp only
    split
    · next id name attrs hentry =>
      obtain ⟨i, -, hi⟩ := Option.bind_eq_some_iff.mp hentry
      have hattrs : Gives P attrs := h.2 _ (List.mem_of_getElem? hi)
      split
      · exact ih _ (by simp [h])
      · refine ih _ ⟨?_, ?_⟩
        · exact (holds_create h _ hattrs.plainAttrs).1.of_tag?_eq (Forest.tag?_append _ _ _)
        · intro e he
          obtain ⟨e', he', rfl⟩ := List.mem_map.mp he
          split
          · exact hattrs
          · exact h.2 e' he'
    · exact ih _ h

/-- An entry that is put behind another one is new, and the others were there. -/
theorem mem_insertAfterFormatting {target : ℕ} {entry e : Formatting} {entries : List Formatting}
    (h : e ∈ insertAfterFormatting target entry entries) : e = entry ∨ e ∈ entries := by
  induction entries with
  | nil => cases h
  | cons e' rest ih =>
    unfold insertAfterFormatting at h
    split at h <;> grind

/-- The entries back to a marker are formatting elements. -/
theorem mem_of_mem_formattingToMarker {p : ℕ × Formatting} (h : p ∈ b.formattingToMarker) :
    p.2 ∈ b.formatting := by
  obtain ⟨q, hq, rfl⟩ := List.mem_map.mp h
  exact List.fst_mem_of_mem_zipIdx (List.takeWhile_subset _ hq)

/-- A formatting element that is closed out of order is made again of the entry that it had. -/
theorem holds_adoptOnce (h : b.Holds P) (name : String) : (b.adoptOnce name).1.Holds P := by
  unfold adoptOnce
  dsimp only
  split
  · exact holds_closeAny.mpr h
  · next element attrs hentry =>
    -- The new element gets its attributes from an entry that the builder holds already.
    have hattrs : Gives P attrs := by
      obtain ⟨p, hp, hsome⟩ := List.exists_of_findSome?_eq_some hentry
      have hp' := h.2 _ (mem_of_mem_formattingToMarker hp)
      split at hsome
      · next heq =>
        rw [heq] at hp'
        split at hsome
        · cases hsome
          exact hp'
        · cases hsome
      · cases hsome
    split
    · exact holds_removeFormatting h _
    · split
      · exact h
      · generalize (b.opened.takeWhile (· != element)).reverse = inside
        split
        · exact holds_removeFormatting (b := { b with opened := _ }) h _
        · next i _ =>
          -- What stands between the element and the block is closed first.
          have hbetween := holds_adoptBetween (a := ⟨b, inside.getD i element, none⟩)
            (inside.getD i element) 1 (inside.take i).reverse h
          generalize adoptBetween _ _ _ _ = a at hbetween ⊢
          have hmoved (p : InsertionPlace) :
              (putAt { a.builder with forest := a.builder.forest.detach a.last } p a.last).Holds
                P :=
            holds_putAt (hbetween.of_forest (hbetween.1.of_tag?_eq (Forest.tag?_detach _ _))) p _
          have hcreated (p : InsertionPlace) :=
            holds_create (hmoved p) ⟨.html, name, plainAttrs attrs⟩ hattrs.plainAttrs
          refine ⟨?_, fun e he => ?_⟩
          · apply (hcreated _).1.of_tag?_eq
            intro id
            exact (Forest.tag?_append _ _ _ _).trans (Forest.tag?_moveChildren _ _ _ _)
          · split at he
            · obtain ⟨e', he', rfl⟩ := List.mem_map.mp he
              split
              · exact hattrs
              · exact (hcreated _).2 e' he'
            · rcases mem_insertAfterFormatting (List.eraseP_subset he) with rfl | he
              · exact hattrs
              · exact (hcreated _).2 e he

theorem holds_adoptRounds (h : b.Holds P) (name : String) (rounds : ℕ) :
    (b.adoptRounds name rounds).Holds P := by
  induction rounds generalizing b with
  | zero => exact h
  | succ rounds ih =>
    have honce := holds_adoptOnce h name
    unfold adoptRounds
    split
    · next heq =>
      rw [heq] at honce
      exact ih honce
    · next heq =>
      rw [heq] at honce
      exact honce

/-- **A formatting element that is closed out of order** leaves good attributes behind. -/
@[simp] theorem holds_adopt (h : b.Holds P) (name : String) : (b.adopt name).Holds P := by
  unfold adopt
  split
  · exact h
  · exact holds_adoptRounds h name 8

end Builder

end PageModules
