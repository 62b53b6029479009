import PageModules.Catalog.ModuleType

/-!
# Patterns of components

A component is an element with a shape that is known: a slider, an accordion, a price list.  For
each kind there is a `ComponentPattern` with a weight, the tag, the classes and the attributes that
speak for it, a rule for its children and checks of what stands below it.  The earlier pattern wins
a tie.
-/

namespace PageModules

namespace Component

/-! ### Class names -/

/-- Classes of the slides of a slider. -/
def slideClasses : List String :=
  ["slide", "swiper-slide", "carousel-item", "owl-item", "slick-slide"]

/-- Classes of the header of an accordion item. -/
def headerClasses : List String :=
  ["accordion-header", "faq-question", "collapse-header", "panel-heading"]

/-- Classes of the contents of an accordion item. -/
def contentClasses : List String :=
  ["accordion-content", "faq-answer", "collapse-content", "panel-body"]

/-- Classes of the navigation of tabs. -/
def tabNavClasses : List String := ["tab-nav", "tabs-nav", "nav-tabs", "tab-list"]

/-- Classes of the panels of tabs. -/
def tabPanelClasses : List String := ["tab-content", "tab-panels", "tab-pane"]

/-- Classes of the name of an author. -/
def authorClasses : List String := ["author", "name", "cite", "attribution", "reviewer"]

/-- Classes of the position of a person. -/
def positionClasses : List String := ["position", "role", "job", "title", "designation"]

end Component

/-! ### Rules -/

/-- What speaks for a component among its children. -/
inductive ChildrenRule where
  /-- Children with one of the classes, or blocks. -/
  | repeated (classes : List String)
  /-- Children with a header and contents. -/
  | headedItems
  /-- At least so many pictures below. -/
  | pictures (least : Nat)
  /-- At least two cards. -/
  | cards
deriving DecidableEq, Repr

/-- What speaks for a component below it. -/
inductive ComponentCheck where
  /-- An icon or a picture. -/
  | iconOrPicture
  /-- A heading, or an element with one of the classes. -/
  | title (classes : List String)
  /-- A description. -/
  | description
  /-- A button. -/
  | button
  /-- A quotation. -/
  | quotation (classes : List String)
  /-- An author. -/
  | author (classes : List String)
  /-- A price. -/
  | price (classes : List String)
  /-- A list of features. -/
  | features (classes : List String)
  /-- A position. -/
  | position (classes : List String)
  /-- A link to one of the networks. -/
  | socialLinks (networks : List String)
  /-- A video, or a page of one of the sites. -/
  | videoElement (sites : List String)
  /-- An embedded page, at best of one of the sites. -/
  | embeddedPage (sites : List String)
  /-- An input for text. -/
  | textInputs
  /-- A button or an input that sends a form. -/
  | submit
  /-- A unit of time. -/
  | timeUnits (units : List String)
  /-- A number. -/
  | number
  /-- A label. -/
  | label
  /-- A large heading. -/
  | largeHeading
  /-- A background. -/
  | background
  /-- A navigation and panels. -/
  | navAndPanels (nav panels : List String)
deriving DecidableEq, Repr

/-- The shape of a component. -/
structure ComponentPattern where
  /-- The type of module. -/
  type : ModuleType
  /-- What the score is multiplied by. -/
  weight : UInt32
  /-- The tag that is required. -/
  tag : Option String := none
  /-- The classes that speak for it. -/
  classes : List String
  /-- The attributes that speak for it: names, or names with values. -/
  attrs : List (String × Option String) := []
  /-- The rule for the children. -/
  children : Option ChildrenRule := none
  /-- The number of children that is required. -/
  requiredChildren : Option Nat := none
  /-- The checks of what stands below. -/
  checks : List ComponentCheck := []
deriving DecidableEq, Repr

namespace ComponentPattern

open Component

/-! ### The patterns -/

/-- The patterns of components whose parts are repeated. -/
def repeatedPatterns : List ComponentPattern := [
  { type := .slider
    weight := 100
    classes := ["slider", "carousel", "slideshow", "swiper", "slick", "owl-carousel", "splide"]
    attrs := [("data-slick", none), ("data-swiper", none), ("data-owl", none), ("data-slide", none),
      ("data-carousel", none)]
    children := some (.repeated slideClasses)
    requiredChildren := some 2 },
  { type := .accordion
    weight := 90
    classes := ["accordion", "faq", "collapsible", "expandable", "collapse-container"]
    attrs := [("data-accordion", none), ("data-collapse", none), ("role", some "tablist")]
    children := some .headedItems
    requiredChildren := some 1 },
  { type := .tabs
    weight := 90
    classes := ["tabs", "tab-container", "tabbed", "nav-tabs", "tab-group"]
    attrs := [("data-tabs", none), ("role", some "tablist")]
    checks := [.navAndPanels tabNavClasses tabPanelClasses] },
  { type := .gallery
    weight := 85
    classes := ["gallery", "image-gallery", "photo-gallery", "grid-gallery", "lightbox-gallery",
      "masonry"]
    attrs := [("data-gallery", none), ("data-lightbox", none), ("data-fancybox", none)]
    children := some (.pictures 2) }]

/-- The patterns of components that present one thing. -/
def singlePatterns : List ComponentPattern := [
  { type := .testimonial
    weight := 80
    classes := ["testimonial", "review", "quote", "customer-review", "client-review", "feedback"]
    checks := [.quotation ["blockquote", "quote", "content", "text", "review-text"],
      .author authorClasses] },
  { type := .teamMember
    weight := 80
    classes := ["team-member", "member", "staff", "person", "profile", "team-card", "employee"]
    checks := [.iconOrPicture, .title ["member-name"], .position positionClasses] },
  { type := .pricingTable
    weight := 85
    classes := ["pricing", "pricing-table", "pricing-card", "price-box", "plan", "pricing-plan"]
    checks := [.button, .price ["price", "amount", "cost", "value"],
      .features ["features", "benefits", "ul", "list"]] },
  { type := .blurb
    weight := 70
    classes := ["blurb", "feature", "feature-box", "info-box", "card", "service", "benefit"]
    checks := [.iconOrPicture, .title [], .description] },
  { type := .cta
    weight := 75
    classes := ["cta", "call-to-action", "cta-section", "cta-box", "action-box", "promo"]
    checks := [.title [], .button] },
  { type := .fullwidthHeader
    weight := 95
    classes := ["hero", "hero-section", "banner", "jumbotron", "masthead", "fullwidth-header",
      "page-header"]
    checks := [.largeHeading, .background] },
  { type := .socialFollow
    weight := 85
    classes := ["social", "social-icons", "social-links", "social-follow", "social-media"]
    checks := [.socialLinks ["facebook", "twitter", "instagram", "linkedin", "youtube", "pinterest",
      "tiktok"]] },
  { type := .countdown
    weight := 90
    classes := ["countdown", "timer", "count-down", "countdown-timer", "clock"]
    attrs := [("data-countdown", none), ("data-timer", none), ("data-end", none),
      ("data-date", none)]
    checks := [.timeUnits ["days", "hours", "minutes", "seconds", "day", "hour", "minute",
      "second"]] },
  { type := .numberCounter
    weight := 80
    classes := ["counter", "stat", "statistic", "number-counter", "count-up", "fact"]
    attrs := [("data-counter", none), ("data-count", none), ("data-target", none)]
    checks := [.number, .label] }]

/-- The patterns of embedded pages, lists of posts and forms. -/
def pagePatterns : List ComponentPattern := [
  { type := .map
    weight := 95
    classes := ["map", "google-map", "location-map", "embed-map"]
    checks := [.embeddedPage ["google.com/maps", "maps.google.com", "openstreetmap"]] },
  { type := .video
    weight := 95
    classes := ["video", "video-player", "video-embed", "embed-responsive", "video-container"]
    checks := [.videoElement ["youtube.com", "youtu.be", "vimeo.com", "wistia.com",
      "dailymotion"]] },
  { type := .blog
    weight := 75
    classes := ["blog", "posts", "post-grid", "articles", "news", "blog-posts", "post-list"]
    children := some .cards },
  { type := .portfolio
    weight := 75
    classes := ["portfolio", "projects", "work", "works", "portfolio-grid", "case-studies"]
    children := some .cards },
  { type := .contactForm
    weight := 90
    tag := some "form"
    classes := ["contact-form", "form", "form-container", "cf7", "wpforms", "gform"]
    checks := [.textInputs, .submit] }]

/-- All patterns; the earlier one wins a tie. -/
def all : List ComponentPattern := repeatedPatterns ++ singlePatterns ++ pagePatterns

/-- The pattern of a type. -/
def of? (type : ModuleType) : Option ComponentPattern := all.find? fun p => p.type = type

end ComponentPattern

end PageModules
