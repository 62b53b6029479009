import PageModules.Layout.Shape
import PageModules.Mapping.Detection
import PageModules.Proofs.Markup.WithoutVariants

/-!
# Shapes and types without the variants of styles

Whether an element looks like a section, a row or a column, the settings of these, and the type of
module that it stands for are read from its tag, its texts, its plain style and other attributes.
None of them asks for the style texts of the variants, so all are the same without these.
-/

namespace PageModules.Element

variable (e : Element)

/-! ### Shapes -/

/-- The class is no style text. -/
@[simp] theorem lowerClass_withoutVariants : e.withoutVariants.lowerClass = e.lowerClass := by
  rw [lowerClass, lowerClass, classAttr_withoutVariants]

/-- A marker is no style text. -/
@[simp] theorem isMarkedAs_withoutVariants (type : String) :
    e.withoutVariants.isMarkedAs type = e.isMarkedAs type := by
  rw [isMarkedAs, isMarkedAs, attr?_withoutVariants (by decide)]

@[simp] theorem hasSectionWord_withoutVariants :
    e.withoutVariants.hasSectionWord = e.hasSectionWord := by
  rw [hasSectionWord, hasSectionWord, attr?_withoutVariants (by decide), lowerClass_withoutVariants]

/-- **An element looks like a section** with or without the variants. -/
@[simp] theorem isSectionLike_withoutVariants :
    e.withoutVariants.isSectionLike = e.isSectionLike := by
  rw [isSectionLike, isSectionLike, tagName_withoutVariants, isMarkedAs_withoutVariants,
    hasSectionWord_withoutVariants]

/-- That children stand side by side is said by the plain style. -/
@[simp] theorem hasRowStyle_withoutVariants : e.withoutVariants.hasRowStyle = e.hasRowStyle := by
  rw [hasRowStyle, hasRowStyle, style_withoutVariants]

/-- **An element looks like a row** with or without the variants. -/
@[simp] theorem isRowLike_withoutVariants : e.withoutVariants.isRowLike = e.isRowLike := by
  rw [isRowLike, isRowLike, isMarkedAs_withoutVariants, hasRowStyle_withoutVariants,
    lowerClass_withoutVariants]

/-- **An element looks like a column** with or without the variants. -/
@[simp] theorem isColumnLike_withoutVariants :
    e.withoutVariants.isColumnLike = e.isColumnLike := by
  rw [isColumnLike, isColumnLike, isMarkedAs_withoutVariants, lowerClass_withoutVariants,
    attr?_withoutVariants (by decide)]

/-- The content of an element is not in its style. -/
@[simp] theorem hasSignificantContent_withoutVariants :
    e.withoutVariants.hasSignificantContent = e.hasSignificantContent := by
  rw [hasSignificantContent, hasSignificantContent, childElements_withoutVariants,
    hasDirectText_withoutVariants, List.isEmpty_map]

/-! ### Settings -/

/-- The width of a container is that of the plain style of a child. -/
@[simp] theorem containerWidth?_withoutVariants :
    e.withoutVariants.containerWidth? = e.containerWidth? := by
  rw [containerWidth?, containerWidth?, childElements_withoutVariants, List.findSome?_map]
  simp only [Function.comp_def, lowerClass_withoutVariants, style_withoutVariants]

/-- The inner width is an override, a width of the plain style or a class. -/
@[simp] theorem innerWidth?_withoutVariants : e.withoutVariants.innerWidth? = e.innerWidth? := by
  rw [innerWidth?, innerWidth?, override?_withoutVariants, containerWidth?_withoutVariants,
    style_withoutVariants, lowerClass_withoutVariants]

/-- The gap between rows is an override or a gap of the plain style. -/
@[simp] theorem rowGap?_withoutVariants : e.withoutVariants.rowGap? = e.rowGap? := by
  rw [rowGap?, rowGap?, override?_withoutVariants, style_withoutVariants]

@[simp] theorem columnGap?_withoutVariants : e.withoutVariants.columnGap? = e.columnGap? := by
  rw [columnGap?, columnGap?, override?_withoutVariants, style_withoutVariants]

/-- The alignment is an override or that of the plain style. -/
@[simp] theorem verticalAlign?_withoutVariants :
    e.withoutVariants.verticalAlign? = e.verticalAlign? := by
  rw [verticalAlign?, verticalAlign?, override?_withoutVariants, style_withoutVariants]

/-! ### Forms -/

/-- The inputs of a form are those of the form without the variants. -/
@[simp] theorem inputs_withoutVariants :
    e.withoutVariants.inputs = e.inputs.map withoutVariants :=
  e.descendantsNamed_withoutVariants "input"

@[simp] theorem inputKind_withoutVariants : e.withoutVariants.inputKind = e.inputKind := by
  rw [inputKind, inputKind, attr?_withoutVariants (by decide)]

@[simp] theorem inputName_withoutVariants : e.withoutVariants.inputName = e.inputName := by
  rw [inputName, inputName, attr?_withoutVariants (by decide)]

/-- A form to search is told by its role, its classes and its inputs. -/
@[simp] theorem isSearchForm_withoutVariants :
    e.withoutVariants.isSearchForm = e.isSearchForm := by
  rw [isSearchForm, isSearchForm, attr?_withoutVariants (by decide), hasAnyClass_withoutVariants,
    inputs_withoutVariants, List.any_map]
  simp only [Function.comp_def, inputKind_withoutVariants, inputName_withoutVariants]

/-- A form to sign up is told by its classes and its passwords. -/
@[simp] theorem isSignupForm_withoutVariants :
    e.withoutVariants.isSignupForm = e.isSignupForm := by
  rw [isSignupForm, isSignupForm, hasAnyClass_withoutVariants, inputs_withoutVariants,
    List.countP_map]
  simp only [Function.comp_def, inputKind_withoutVariants]

/-- A form to log in is told by its classes and the inputs for a name and a password. -/
@[simp] theorem isLoginForm_withoutVariants : e.withoutVariants.isLoginForm = e.isLoginForm := by
  rw [isLoginForm, isLoginForm, hasAnyClass_withoutVariants, isSignupForm_withoutVariants,
    inputs_withoutVariants, List.any_map, List.any_map]
  simp only [Function.comp_def, inputKind_withoutVariants, inputName_withoutVariants]

/-- **A form is for the same** with or without the variants. -/
@[simp] theorem formRole_withoutVariants : e.withoutVariants.formRole = e.formRole := by
  rw [formRole, formRole, isSearchForm_withoutVariants, isLoginForm_withoutVariants,
    isSignupForm_withoutVariants]

/-- What is an input stays one; its type may be read from the whole element. -/
@[simp] theorem isSome_inputType?_withoutVariants :
    e.withoutVariants.inputType?.isSome = e.inputType?.isSome := by
  unfold inputType?
  dsimp only
  rw [tagName_withoutVariants, findDescendant?_withoutVariants, Option.isSome_map,
    Option.isSome_map]
  split
  · rfl
  · rw [Option.isSome_map]

/-! ### Types -/

/-- What looks like a button does so by its classes and its plain style. -/
@[simp] theorem looksLikeButton_withoutVariants :
    e.withoutVariants.looksLikeButton = e.looksLikeButton := by
  rw [looksLikeButton, looksLikeButton, hasAnyClass_withoutVariants, isNamed_withoutVariants,
    hasButtonStyle, hasButtonStyle, style_withoutVariants]

/-- The type that a marker names is the same. -/
@[simp] theorem markedType?_withoutVariants : e.withoutVariants.markedType? = e.markedType? := by
  rw [markedType?, markedType?, marker?_withoutVariants]

/-- What is embedded is told by its address. -/
@[simp] theorem embedType?_withoutVariants : e.withoutVariants.embedType? = e.embedType? := by
  rw [embedType?, embedType?, tagName_withoutVariants, attr?_withoutVariants (by decide)]

@[simp] theorem leafType?_withoutVariants : e.withoutVariants.leafType? = e.leafType? := by
  rw [leafType?, leafType?, tagName_withoutVariants, findDescendant?_withoutVariants,
    Option.isSome_map]

/-- The type of an element without a marker is told by its tag, its classes and its form. -/
@[simp] theorem likelyType?_withoutVariants : e.withoutVariants.likelyType? = e.likelyType? := by
  have htag : e.withoutVariants.tagType? = e.tagType? := by
    rw [tagType?, tagType?, tagName_withoutVariants]
  have hclass : e.withoutVariants.classType? = e.classType? := by
    rw [classType?, classType?, classes_withoutVariants]
  have hform : e.withoutVariants.formType? = e.formType? := by
    rw [formType?, formType?, tagName_withoutVariants, formRole_withoutVariants]
  have hbutton : e.withoutVariants.buttonType? = e.buttonType? := by
    rw [buttonType?, buttonType?, tagName_withoutVariants, looksLikeButton_withoutVariants]
  rw [likelyType?, likelyType?, htag, embedType?_withoutVariants, hclass, hform, hbutton,
    leafType?_withoutVariants]

/-- **An element stands for the same type** with or without the variants. -/
@[simp] theorem type?_withoutVariants : e.withoutVariants.type? = e.type? := by
  rw [type?, type?, markedType?_withoutVariants, likelyType?_withoutVariants]

end PageModules.Element
