import PageModules.Catalog.ModuleType
import PageModules.Markup.Node

/-!
# The catalog of modules

For each module type the classes that name it, the type of its children and the rules for its
fields. A field is read from the first of its sources that has a value; a value is cast to the kind
of the field.

* `ModuleDefinition.of?` is the definition of a type.
* `ModuleDefinition.ofClasses?` is the first definition that an element with given classes fits.
-/

namespace PageModules

/-! ### Rules -/

/-- The kind of the values of a field. -/
inductive FieldKind where
  /-- A text. -/
  | text
  /-- A truth value. -/
  | bool
  /-- An integer. -/
  | int
  /-- A number. -/
  | float
  /-- A list. -/
  | array
  /-- A colour. -/
  | color
deriving DecidableEq, Repr

/-- What can be told about an element by looking at it as a whole. -/
inductive Detector where
  /-- The level of a heading. -/
  | headingLevel
  /-- The type of an input. -/
  | inputType
  /-- The role of a form. -/
  | formRole
deriving DecidableEq, Repr

/-- Where the value of a field is read. -/
inductive FieldSource where
  /-- An attribute of the element. -/
  | attr (name : String)
  /-- The text of a descendant, or an attribute of it. -/
  | selected (selector : String)
  /-- The markup inside of a descendant, or an attribute of it. -/
  | selectedMarkup (selector : String)
  /-- The text of the element. -/
  | text
  /-- The markup inside of the element. -/
  | innerMarkup
  /-- Whether the element has a class. -/
  | hasClass (name : String)
  /-- What follows the given start in the first class that starts so. -/
  | classRest (start : String)
  /-- What can be told about the element. -/
  | detected (detector : Detector)
deriving DecidableEq, Repr

/-- The rule for a field of a module. -/
structure FieldRule where
  /-- The name of the field. -/
  name : String
  /-- The kind of its values. -/
  kind : FieldKind
  /-- Where the value is read, the earlier sources first. -/
  sources : List FieldSource
  /-- The value where no source has one. -/
  default : Option Json

/-- The definition of a module type. -/
structure ModuleDefinition where
  /-- The type. -/
  type : ModuleType
  /-- The category. -/
  category : Category
  /-- The classes that name the type. -/
  classes : List String
  /-- The type of the children. -/
  child : Option ModuleType := none
  /-- Whether modules of the type stand in others only. -/
  isChild : Bool := false
  /-- The fields in order. -/
  fields : List FieldRule

/-- A field without a default. -/
def field (name : String) (kind : FieldKind) (sources : List FieldSource) : FieldRule :=
  ⟨name, kind, sources, none⟩

/-- The attribute with an author override. -/
def author (name : String) : FieldSource := .attr (Element.overrideMark ++ name)

namespace ModuleDefinition

/-! ### Definitions -/

/-- The parts that a page is divided into. -/
def layoutDefinitions : List ModuleDefinition := [
  { type := .pageSection
    category := .layout
    classes := ["section", "jtb-section"]
    fields := [
      field "fullwidth" .bool [author "fullwidth"],
      field "inner_shadow" .bool [author "inner-shadow"],
      field "parallax" .bool [author "parallax"]] },
  { type := .row
    category := .layout
    classes := ["row", "jtb-row"]
    fields := [
      field "column_structure" .text [author "columns"],
      field "gutter_width" .int [author "gutter"],
      field "equalheight" .bool [author "equalheight"]] },
  { type := .column
    category := .layout
    classes := ["column", "col", "jtb-column"]
    fields := [] }]

/-- The modules for content. -/
def contentDefinitions : List ModuleDefinition := [
  { type := .heading
    category := .content
    classes := ["heading", "title"]
    fields := [
      field "text" .text [.text],
      field "level" .text [.detected .headingLevel],
      field "link_url" .text [author "link-url", .selected "a@href"],
      field "link_target" .bool [author "link-target", .selected "a@target"]] },
  { type := .text
    category := .content
    classes := ["text", "content", "description"]
    fields := [
      field "content" .text [.innerMarkup]] },
  { type := .image
    category := .content
    classes := ["image", "img", "photo"]
    fields := [
      field "src" .text [.attr "src", .selected "img@src"],
      field "alt" .text [.attr "alt", .selected "img@alt"],
      field "title_text" .text [.attr "title"],
      field "link_url" .text [author "url", .selected "a@href"],
      field "link_target" .bool [.selected "a@target"],
      field "show_in_lightbox" .bool [author "lightbox"]] },
  { type := .button
    category := .content
    classes := ["btn", "button", "cta-button"]
    fields := [
      field "text" .text [.text],
      field "link_url" .text [.attr "href"],
      field "link_target" .bool [.attr "target"],
      field "button_alignment" .text [author "alignment"],
      field "custom_icon" .text [author "icon"],
      field "icon_position" .text [author "icon-position"]] },
  { type := .blurb
    category := .content
    classes := ["blurb", "card", "feature", "feature-box", "info-box"]
    fields := [
      field "title" .text [.selected "h1,h2,h3,h4,h5,h6"],
      field "content" .text [.selectedMarkup ".content,p,.description"],
      field "image" .text [.selected "img@src"],
      field "alt" .text [.selected "img@alt"],
      field "use_icon" .bool [author "use-icon"],
      field "font_icon" .text [author "icon"],
      field "icon_color" .color [author "icon-color"],
      field "use_circle" .bool [author "use-circle"],
      field "image_placement" .text [author "placement"],
      field "link_url" .text [.selected "a@href"],
      field "header_level" .text [author "header-level"],
      field "text_orientation" .text [author "text-align"]] },
  { type := .divider
    category := .content
    classes := ["divider", "separator", "hr"]
    fields := [
      ⟨"show_divider", .bool, [], some (.bool true)⟩,
      field "divider_style" .text [author "style"],
      field "divider_weight" .int [author "weight"],
      field "divider_color" .color [author "color"]] },
  { type := .code
    category := .content
    classes := ["code", "code-block", "syntax"]
    fields := [
      field "raw_content" .text [.text]] },
  { type := .cta
    category := .content
    classes := ["cta", "call-to-action", "cta-section", "cta-box"]
    fields := [
      field "title" .text [.selected "h1,h2,h3,h4"],
      field "content" .text [.selectedMarkup "p,.content"],
      field "button_text" .text [.selected ".btn,button,a.button"],
      field "link_url" .text [.selected ".btn@href,button@data-url,a.button@href"]] },
  { type := .numberCounter
    category := .content
    classes := ["counter", "number-counter", "stat", "statistic"]
    fields := [
      field "title" .text [.selected "h1,h2,h3,h4,h5,h6,.title"],
      field "number" .text [author "number", .selected ".number,.count"],
      field "percent_sign" .bool [author "percent"]] },
  { type := .circleCounter
    category := .content
    classes := ["circle-counter", "progress-circle", "radial-progress"]
    fields := [
      field "title" .text [.selected "h1,h2,h3,h4,h5,h6,.title"],
      field "number" .int [author "number"],
      field "bar_bg_color" .color [author "bar-bg"],
      field "bar_color" .color [author "bar-color"]] },
  { type := .barCounter
    category := .content
    classes := ["bar-counter", "progress-bar", "progress"]
    child := some .barCounterItem
    fields := [
      field "layout" .text [author "layout"]] },
  { type := .barCounterItem
    category := .content
    classes := ["bar-item", "progress-item"]
    isChild := true
    fields := [
      field "title" .text [.selected ".title,.label"],
      field "percent" .int [author "percent"],
      field "bar_color" .color [author "color"]] },
  { type := .icon
    category := .content
    classes := ["icon", "jtb-icon"]
    fields := [
      field "font_icon" .text [author "icon", .classRest "icon-"],
      field "icon_color" .color [author "color"],
      field "use_circle" .bool [author "circle"],
      field "circle_color" .color [author "circle-color"]] },
  { type := .testimonial
    category := .content
    classes := ["testimonial", "review", "quote", "customer-review"]
    fields := [
      field "author" .text [.selected ".author,.name,cite"],
      field "job_title" .text [.selected ".job,.position,.role"],
      field "company" .text [.selected ".company,.organization"],
      field "link_url" .text [.selected "a@href"],
      field "portrait_url" .text [.selected "img@src,.avatar@src"],
      field "content" .text [.selectedMarkup ".content,.quote,p"],
      field "quote_icon" .text [author "quote-icon"]] },
  { type := .teamMember
    category := .content
    classes := ["team-member", "member", "staff", "person", "profile"]
    fields := [
      field "name" .text [.selected "h1,h2,h3,h4,h5,h6,.name"],
      field "position" .text [.selected ".position,.role,.job-title"],
      field "image_url" .text [.selected "img@src"],
      field "content" .text [.selectedMarkup ".bio,.content,p"],
      field "facebook_url" .text [author "facebook"],
      field "twitter_url" .text [author "twitter"],
      field "linkedin_url" .text [author "linkedin"],
      field "email" .text [author "email"]] },
  { type := .pricingTable
    category := .content
    classes := ["pricing", "pricing-table", "pricing-card", "price-box", "plan"]
    child := some .pricingTableItem
    fields := [
      field "title" .text [.selected "h1,h2,h3,h4,.plan-name,.title"],
      field "subtitle" .text [.selected ".subtitle,.tagline"],
      field "currency" .text [author "currency"],
      field "price" .text [.selected ".price,.amount"],
      field "per" .text [.selected ".period,.per"],
      field "content" .text [.selectedMarkup "ul,.features"],
      field "button_text" .text [.selected ".btn,button,a.button"],
      field "link_url" .text [.selected ".btn@href,a.button@href"],
      field "featured" .bool [author "featured", .hasClass "featured"],
      field "featured_text" .text [.selected ".badge,.ribbon"]] },
  { type := .pricingTableItem
    category := .content
    classes := ["pricing-feature", "feature-item"]
    isChild := true
    fields := [
      field "feature" .text [.text],
      field "excluded" .bool [.hasClass "excluded"]] },
  { type := .socialFollow
    category := .content
    classes := ["social", "social-icons", "social-links", "social-follow"]
    child := some .socialFollowItem
    fields := [
      field "follow_button" .bool [author "follow-button"]] },
  { type := .socialFollowItem
    category := .content
    classes := ["social-item", "social-link"]
    isChild := true
    fields := [
      field "social_network" .text [author "network", .classRest "social-"],
      field "url" .text [.attr "href", .selected "a@href"]] },
  { type := .comments
    category := .content
    classes := ["comments", "comments-section", "comment-list"]
    fields := [
      field "show_avatar" .bool [author "show-avatar"],
      field "show_reply" .bool [author "show-reply"]] },
  { type := .countdown
    category := .content
    classes := ["countdown", "timer", "count-down"]
    fields := [
      field "end_date" .text [author "end-date"],
      field "show_days" .bool [author "show-days"],
      field "show_hours" .bool [author "show-hours"],
      field "show_minutes" .bool [author "show-minutes"],
      field "show_seconds" .bool [author "show-seconds"]] },
  { type := .sidebar
    category := .content
    classes := ["sidebar", "widget-area"]
    fields := [
      field "area" .text [author "area"]] },
  { type := .postNavigation
    category := .content
    classes := ["post-navigation", "nav-links", "post-nav"]
    fields := [
      field "show_featured_image" .bool [author "show-image"],
      field "show_title" .bool [author "show-title"]] },
  { type := .shop
    category := .content
    classes := ["shop", "products", "woocommerce", "product-grid"]
    fields := [
      field "posts_number" .int [author "posts-number"],
      field "columns" .int [author "columns"]] }]

/-- The modules that react to the reader. -/
def interactiveDefinitions : List ModuleDefinition := [
  { type := .accordion
    category := .interactive
    classes := ["accordion", "faq", "collapsible"]
    child := some .accordionItem
    fields := [
      field "toggle_icon" .text [author "toggle-icon"],
      field "toggle_icon_position" .text [author "icon-position"],
      field "toggle_header_level" .text [author "header-level"]] },
  { type := .accordionItem
    category := .interactive
    classes := ["accordion-item", "faq-item", "collapse-item"]
    isChild := true
    fields := [
      field "title" .text [.selected ".accordion-header,.faq-question,h1,h2,h3,h4,h5,h6"],
      field "content" .text [.selectedMarkup ".accordion-content,.faq-answer,.content"],
      field "open" .bool [author "open", .hasClass "open"]] },
  { type := .tabs
    category := .interactive
    classes := ["tabs", "tab-container", "tabbed"]
    child := some .tabsItem
    fields := [
      field "active_tab_idx" .int [author "active-tab"]] },
  { type := .tabsItem
    category := .interactive
    classes := ["tab-item", "tab-pane", "tab-content"]
    isChild := true
    fields := [
      field "title" .text [author "title", .selected ".tab-title,h1,h2,h3,h4,h5,h6"],
      field "content" .text [.selectedMarkup ".tab-content,.content"]] },
  { type := .toggle
    category := .interactive
    classes := ["toggle", "expandable"]
    fields := [
      field "title" .text [.selected ".toggle-header,h1,h2,h3,h4,h5,h6"],
      field "content" .text [.selectedMarkup ".toggle-content,.content"],
      field "open" .bool [author "open", .hasClass "open"]] }]

/-- The modules for pictures, sound and maps. -/
def mediaDefinitions : List ModuleDefinition := [
  { type := .audio
    category := .media
    classes := ["audio", "audio-player", "podcast"]
    fields := [
      field "audio_url" .text [.attr "src", .selected "source@src"]] },
  { type := .video
    category := .media
    classes := ["video", "video-player", "embed-responsive"]
    fields := [
      field "src" .text [.attr "src", .selected "iframe@src,video@src,source@src"],
      field "src_webm" .text [author "webm"]] },
  { type := .gallery
    category := .media
    classes := ["gallery", "image-gallery", "photo-gallery", "grid-gallery"]
    fields := [
      field "gallery_ids" .array [.selected "img@src"],
      field "columns" .int [author "columns"],
      field "orientation" .text [author "orientation"],
      field "show_title_and_caption" .bool [author "show-caption"]] },
  { type := .slider
    category := .media
    classes := ["slider", "carousel", "slideshow", "swiper"]
    child := some .sliderItem
    fields := [
      field "show_arrows" .bool [author "arrows"],
      field "show_dots" .bool [author "dots"],
      field "auto" .bool [author "auto"],
      field "auto_speed" .int [author "speed"],
      field "loop" .bool [author "loop"],
      field "slider_height" .int [author "height"]] },
  { type := .sliderItem
    category := .media
    classes := ["slide", "slider-item", "carousel-item", "swiper-slide"]
    isChild := true
    fields := [
      field "heading" .text [.selected "h1,h2,h3,h4"],
      field "content" .text [.selectedMarkup ".content,p"],
      field "image" .text [author "image", .selected "img@src"],
      field "button_text" .text [.selected ".btn,button,a.button"],
      field "link_url" .text [.selected ".btn@href,a.button@href"]] },
  { type := .videoSlider
    category := .media
    classes := ["video-slider", "video-carousel"]
    child := some .videoSliderItem
    fields := [
      field "show_arrows" .bool [author "arrows"],
      field "show_dots" .bool [author "dots"]] },
  { type := .videoSliderItem
    category := .media
    classes := ["video-slide"]
    isChild := true
    fields := [
      field "video_url" .text [.selected "iframe@src,video@src"]] },
  { type := .map
    category := .media
    classes := ["map", "google-map", "location-map"]
    child := some .mapPin
    fields := [
      field "address" .text [author "address"],
      field "zoom" .int [author "zoom"],
      field "map_height" .int [author "height"],
      field "grayscale" .bool [author "grayscale"]] },
  { type := .mapPin
    category := .media
    classes := ["map-pin", "marker"]
    isChild := true
    fields := [
      field "title" .text [author "title"],
      field "pin_address" .text [author "address"],
      field "pin_lat" .float [author "lat"],
      field "pin_lng" .float [author "lng"]] }]

/-- The modules for forms. -/
def formsDefinitions : List ModuleDefinition := [
  { type := .contactForm
    category := .forms
    classes := ["contact-form", "form", "form-container"]
    child := some .contactFormField
    fields := [
      field "email" .text [author "email"],
      field "success_message" .text [author "success-message"],
      field "submit_button_text" .text [
        .selected "button[type=\"submit\"],input[type=\"submit\"]@value"],
      field "use_captcha" .bool [author "captcha"],
      field "form_role" .text [.detected .formRole]] },
  { type := .contactFormField
    category := .forms
    classes := ["form-group", "form-field", "field"]
    isChild := true
    fields := [
      field "field_type" .text [.detected .inputType],
      field "field_id" .text [.attr "name", .selected "input@name,textarea@name,select@name"],
      field "field_title" .text [.selected "label"],
      field "required_mark" .bool [.attr "required",
        .selected "input@required,textarea@required,select@required"],
      field "placeholder" .text [.attr "placeholder",
        .selected "input@placeholder,textarea@placeholder"]] },
  { type := .login
    category := .forms
    classes := ["login-form", "signin-form", "login"]
    fields := [
      field "redirect_url" .text [author "redirect"],
      field "show_remember" .bool [author "show-remember"]] },
  { type := .signup
    category := .forms
    classes := ["signup-form", "register-form", "registration"]
    fields := [
      field "redirect_url" .text [author "redirect"]] },
  { type := .search
    category := .forms
    classes := ["search-form", "search", "site-search"]
    fields := [
      field "placeholder_text" .text [
        .selected "input[type=\"search\"]@placeholder,input[type=\"text\"]@placeholder"],
      field "button_text" .text [.selected "button"]] }]

/-- The modules for lists of posts. -/
def blogDefinitions : List ModuleDefinition := [
  { type := .blog
    category := .blog
    classes := ["blog", "posts", "post-grid", "blog-posts", "articles"]
    fields := [
      field "posts_number" .int [author "posts"],
      field "include_categories" .text [author "categories"],
      field "show_thumbnail" .bool [author "show-thumb"],
      field "show_content" .bool [author "show-content"],
      field "show_date" .bool [author "show-date"],
      field "show_author" .bool [author "show-author"],
      field "show_categories" .bool [author "show-categories"],
      field "show_pagination" .bool [author "show-pagination"],
      field "fullwidth" .bool [author "fullwidth"]] },
  { type := .portfolio
    category := .blog
    classes := ["portfolio", "projects", "work", "portfolio-grid"]
    fields := [
      field "posts_number" .int [author "posts"],
      field "include_categories" .text [author "categories"],
      field "show_title" .bool [author "show-title"],
      field "show_categories" .bool [author "show-categories"],
      field "layout" .text [author "layout"],
      field "columns" .int [author "columns"]] },
  { type := .filterablePortfolio
    category := .blog
    classes := ["filterable-portfolio", "filterable-gallery", "isotope"]
    fields := [
      field "posts_number" .int [author "posts"],
      field "show_categories" .bool [author "show-categories"],
      field "layout" .text [author "layout"]] },
  { type := .postSlider
    category := .blog
    classes := ["post-slider", "posts-carousel"]
    fields := [
      field "posts_number" .int [author "posts"],
      field "include_categories" .text [author "categories"],
      field "show_arrows" .bool [author "arrows"],
      field "show_pagination" .bool [author "pagination"]] }]

/-- The modules as wide as the page. -/
def fullwidthDefinitions : List ModuleDefinition := [
  { type := .fullwidthHeader
    category := .fullwidth
    classes := ["fullwidth-header", "hero", "banner", "hero-section"]
    fields := [
      field "title" .text [.selected "h1,h2,.hero-title"],
      field "subhead" .text [.selected ".subtitle,.subhead,p"],
      field "content" .text [.selectedMarkup ".content"],
      field "header_fullscreen" .bool [author "fullscreen"],
      field "background_image" .text [author "bg-image"],
      field "background_video_mp4" .text [author "bg-video"],
      field "parallax" .bool [author "parallax"],
      field "text_orientation" .text [author "text-align"],
      field "button_one_text" .text [.selected ".btn:first-of-type,a.button:first-of-type"],
      field "button_one_url" .text [.selected ".btn:first-of-type@href"],
      field "button_two_text" .text [.selected ".btn:last-of-type"],
      field "button_two_url" .text [.selected ".btn:last-of-type@href"],
      field "logo_image_url" .text [.selected ".logo img@src"]] },
  { type := .fullwidthImage
    category := .fullwidth
    classes := ["fullwidth-image", "full-image"]
    fields := [
      field "src" .text [.selected "img@src"],
      field "alt" .text [.selected "img@alt"],
      field "link_url" .text [.selected "a@href"]] },
  { type := .fullwidthMenu
    category := .fullwidth
    classes := ["fullwidth-menu", "main-nav"]
    fields := [
      field "menu" .text [author "menu"],
      field "logo_url" .text [.selected ".logo img@src"],
      field "menu_style" .text [author "menu-style"]] },
  { type := .fullwidthSlider
    category := .fullwidth
    classes := ["fullwidth-slider", "hero-slider"]
    child := some .fullwidthSliderItem
    fields := [
      field "show_arrows" .bool [author "arrows"],
      field "show_pagination" .bool [author "pagination"],
      field "auto" .bool [author "auto"],
      field "auto_speed" .int [author "speed"]] },
  { type := .fullwidthSliderItem
    category := .fullwidth
    classes := ["fullwidth-slide", "hero-slide"]
    isChild := true
    fields := [
      field "heading" .text [.selected "h1,h2,h3"],
      field "subhead" .text [.selected ".subtitle,p"],
      field "background_image" .text [author "bg-image"],
      field "button_text" .text [.selected ".btn,a.button"],
      field "link_url" .text [.selected ".btn@href"]] },
  { type := .fullwidthPortfolio
    category := .fullwidth
    classes := ["fullwidth-portfolio"]
    fields := [
      field "posts_number" .int [author "posts"],
      field "include_categories" .text [author "categories"]] },
  { type := .fullwidthCode
    category := .fullwidth
    classes := ["fullwidth-code", "embed-code"]
    fields := [
      field "raw_content" .text [.innerMarkup]] },
  { type := .fullwidthMap
    category := .fullwidth
    classes := ["fullwidth-map"]
    fields := [
      field "address" .text [author "address"],
      field "zoom" .int [author "zoom"],
      field "map_height" .int [author "height"]] },
  { type := .fullwidthPostSlider
    category := .fullwidth
    classes := ["fullwidth-post-slider"]
    fields := [
      field "posts_number" .int [author "posts"],
      field "include_categories" .text [author "categories"]] },
  { type := .fullwidthPostTitle
    category := .fullwidth
    classes := ["fullwidth-post-title", "page-header"]
    fields := [
      field "text_orientation" .text [author "text-align"],
      field "show_meta" .bool [author "show-meta"]] }]

/-- The modules for the parts of a site. -/
def themeDefinitions : List ModuleDefinition := [
  { type := .postTitle
    category := .theme
    classes := ["post-title", "entry-title"]
    fields := [
      field "title" .text [author "title"],
      field "link" .bool [author "link"]] },
  { type := .postContent
    category := .theme
    classes := ["post-content", "entry-content"]
    fields := [] },
  { type := .siteLogo
    category := .theme
    classes := ["site-logo", "logo", "brand"]
    fields := [
      field "logo_url" .text [.selected "img@src"],
      field "logo_alt" .text [.selected "img@alt"],
      field "max_height" .int [author "max-height"]] },
  { type := .featuredImage
    category := .theme
    classes := ["featured-image", "post-thumbnail", "entry-thumbnail"]
    fields := [
      field "show_in_lightbox" .bool [author "lightbox"],
      field "force_fullwidth" .bool [author "fullwidth"]] },
  { type := .postExcerpt
    category := .theme
    classes := ["post-excerpt", "entry-excerpt", "excerpt"]
    fields := [
      field "excerpt_length" .int [author "length"]] },
  { type := .postMeta
    category := .theme
    classes := ["post-meta", "entry-meta", "meta"]
    fields := [
      field "show_author" .bool [author "show-author"],
      field "show_date" .bool [author "show-date"],
      field "show_categories" .bool [author "show-categories"],
      field "show_comments" .bool [author "show-comments"]] },
  { type := .authorBox
    category := .theme
    classes := ["author-box", "author-bio", "about-author"]
    fields := [
      field "show_bio" .bool [author "show-bio"],
      field "show_social" .bool [author "show-social"]] },
  { type := .relatedPosts
    category := .theme
    classes := ["related-posts", "related-articles"]
    fields := [
      field "posts_number" .int [author "posts"],
      field "columns" .int [author "columns"]] },
  { type := .archiveTitle
    category := .theme
    classes := ["archive-title", "page-title"]
    fields := [] },
  { type := .breadcrumbs
    category := .theme
    classes := ["breadcrumbs", "breadcrumb", "bread-crumbs"]
    fields := [
      field "home_text" .text [author "home-text"],
      field "separator" .text [author "separator"]] },
  { type := .archivePosts
    category := .theme
    classes := ["archive-posts", "post-list"]
    fields := [
      field "layout" .text [author "layout"],
      field "columns" .int [author "columns"],
      field "show_thumbnail" .bool [author "show-thumb"],
      field "show_excerpt" .bool [author "show-excerpt"]] },
  { type := .menu
    category := .theme
    classes := ["menu", "nav-menu", "navigation", "main-menu"]
    fields := [
      field "menu" .text [author "menu"],
      field "menu_style" .text [author "style"],
      field "submenu_direction" .text [author "submenu"],
      field "mobile_menu" .bool [author "mobile"]] },
  { type := .searchForm
    category := .theme
    classes := ["search-form", "search"]
    fields := [
      field "placeholder_text" .text [.selected "input@placeholder"],
      field "button_text" .text [.selected "button"]] },
  { type := .socialIcons
    category := .theme
    classes := ["social-icons", "social-links"]
    fields := [
      field "follow_button" .bool [author "follow"],
      field "icon_color" .color [author "color"],
      field "icon_shape" .text [author "shape"]] }]

/-- All definitions. -/
def all : List ModuleDefinition :=
  layoutDefinitions ++ contentDefinitions ++ interactiveDefinitions ++ mediaDefinitions ++
    formsDefinitions ++ blogDefinitions ++ fullwidthDefinitions ++ themeDefinitions

/-! ### Look-up -/

/-- The definition of a type. -/
def of? (type : ModuleType) : Option ModuleDefinition := all.find? fun d => d.type = type

/-- The first definition with one of the given classes. -/
def ofClasses? (classes : List String) : Option ModuleDefinition :=
  all.find? fun d => d.classes.any classes.contains

/-- The types of a category. -/
def typesOf (category : Category) : List ModuleType :=
  (all.filter fun d => d.category = category).map (·.type)

end ModuleDefinition

namespace ModuleType

/-- The type of the children. -/
def child? (type : ModuleType) : Option ModuleType :=
  (ModuleDefinition.of? type).bind (·.child)

/-- Whether modules of the type stand in others only. -/
def isChild (type : ModuleType) : Bool := (ModuleDefinition.of? type).any (·.isChild)

end ModuleType

end PageModules
