import PageModules.Markup.Node
import PageModules.Style.Attributes

/-!
# Styles of an element

The declarations of the `style` attribute, and the attributes that these and the styles for tablets,
for phones and for hovering give a module.
-/

namespace PageModules.Element

/-- The declarations of the `style` attribute. -/
def style (e : Element) : StyleMap := ((e.attr? "style").map StyleMap.ofText).getD .empty

/-- The attributes that the style gives a module. -/
def styleAttributes (e : Element) (base : Int) : Attributes := e.style.toAttributes base ""

/-- The name of the attribute with the style for tablets. -/
def tabletStyleName : String := "data-jtb-tablet-style"

/-- The name of the attribute with the style for phones. -/
def phoneStyleName : String := "data-jtb-phone-style"

/-- The name of the attribute with the style for hovering. -/
def hoverStyleName : String := "data-jtb-hover-style"

/-- The attributes for tablets, for phones and for hovering. -/
def variantAttributes (e : Element) (base : Int) : Attributes :=
  (StyleMap.responsiveAttributes (e.attr? tabletStyleName) (e.attr? phoneStyleName) base).merge
    (StyleMap.hoverAttributes (e.attr? hoverStyleName) base)

end PageModules.Element
