import PageModules.Text.Basic

/-!
# Sites that addresses name

An address names a site when the name of the site stands anywhere in it, in any case.
-/

namespace PageModules.Address

/-- Whether an address names one of the given sites. -/
def names (sites : List String) (address : String) : Bool :=
  sites.any (Text.containsPiece · (Text.lowercase address))

/-- The sites with videos. -/
def videoSites : List String :=
  ["youtube.com", "youtu.be", "vimeo.com", "dailymotion.com", "wistia.com", "vidyard.com"]

/-- The sites with maps. -/
def mapSites : List String := ["google.com/maps", "maps.google.com"]

/-- Whether an address names a site with videos. -/
def isVideo (address : String) : Bool := names videoSites address

/-- Whether an address names a site with maps. -/
def isMap (address : String) : Bool := names mapSites address

end PageModules.Address
