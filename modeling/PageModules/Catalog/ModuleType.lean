import PageModules.Json.Value

/-!
# Module types

The types of modules that a page is made of.  `ModuleType.slug` is the name of a type in documents
and in markup, `ModuleType.ofSlug?` reads it back.
-/

namespace PageModules

/-- A type of modules. -/
inductive ModuleType where
  /-- A band across the page, made of rows. -/
  | pageSection
  /-- A line of columns, with a division that says how wide they are. -/
  | row
  /-- A part of a row that holds the contents. -/
  | column
  /-- A title, with a level from one to six. -/
  | heading
  /-- Running text with its markup. -/
  | text
  /-- A picture, possibly with a link. -/
  | image
  /-- A link in the shape of a button. -/
  | button
  /-- A title and a text beside a picture or an icon. -/
  | blurb
  /-- A line between contents. -/
  | divider
  /-- Text that is shown as it is. -/
  | code
  /-- A call to action: a title and a text over a button. -/
  | cta
  /-- A number that counts up to its value. -/
  | numberCounter
  /-- A percentage that is drawn as an arc. -/
  | circleCounter
  /-- Percentages that are drawn as bars. -/
  | barCounter
  /-- A bar with its title and percentage. -/
  | barCounterItem
  /-- A character of an icon font. -/
  | icon
  /-- A quotation with its author. -/
  | testimonial
  /-- A person with a portrait, a position and links. -/
  | teamMember
  /-- A price with what is offered for it. -/
  | pricingTable
  /-- A feature that is offered, or one that is not. -/
  | pricingTableItem
  /-- Links to the profiles in social networks. -/
  | socialFollow
  /-- A social network with the address of a profile. -/
  | socialFollowItem
  /-- The comments under a post. -/
  | comments
  /-- The time that is left until a date. -/
  | countdown
  /-- A place for widgets. -/
  | sidebar
  /-- Links to the posts before and after. -/
  | postNavigation
  /-- The products of a shop. -/
  | shop
  /-- Texts under titles, of which one is open. -/
  | accordion
  /-- A text of an accordion with its title. -/
  | accordionItem
  /-- Panels of which one is shown, with a title for each. -/
  | tabs
  /-- A panel with its title. -/
  | tabsItem
  /-- A text that opens and closes under its title. -/
  | toggle
  /-- A player for sound. -/
  | audio
  /-- A player for a film. -/
  | video
  /-- Pictures in columns. -/
  | gallery
  /-- Slides that are shown in turn. -/
  | slider
  /-- A slide with a heading, a text and a button. -/
  | sliderItem
  /-- Films that are shown in turn. -/
  | videoSlider
  /-- One of these films. -/
  | videoSliderItem
  /-- A map around an address. -/
  | map
  /-- A marked place on a map. -/
  | mapPin
  /-- A form that sends a message. -/
  | contactForm
  /-- A field of a form. -/
  | contactFormField
  /-- A form to log in. -/
  | login
  /-- A form to sign up. -/
  | signup
  /-- A form to search, as part of the content. -/
  | search
  /-- The latest posts. -/
  | blog
  /-- Projects in a grid. -/
  | portfolio
  /-- Projects in a grid that are chosen by category. -/
  | filterablePortfolio
  /-- The latest posts, shown in turn. -/
  | postSlider
  /-- The header of a page, as wide as the page. -/
  | fullwidthHeader
  /-- A picture as wide as the page. -/
  | fullwidthImage
  /-- A menu as wide as the page. -/
  | fullwidthMenu
  /-- Slides as wide as the page. -/
  | fullwidthSlider
  /-- A slide as wide as the page. -/
  | fullwidthSliderItem
  /-- Projects across the whole page. -/
  | fullwidthPortfolio
  /-- Text that is shown as it is, as wide as the page. -/
  | fullwidthCode
  /-- A map as wide as the page. -/
  | fullwidthMap
  /-- The latest posts, as wide as the page. -/
  | fullwidthPostSlider
  /-- The title of a post, as wide as the page. -/
  | fullwidthPostTitle
  /-- The title of the post that is shown. -/
  | postTitle
  /-- The content of the post that is shown. -/
  | postContent
  /-- The logo of the site. -/
  | siteLogo
  /-- The picture that stands for a post. -/
  | featuredImage
  /-- The first words of a post. -/
  | postExcerpt
  /-- The author, the date and the categories of a post. -/
  | postMeta
  /-- What there is to know about the author of a post. -/
  | authorBox
  /-- Posts on the same subject. -/
  | relatedPosts
  /-- The title of an archive. -/
  | archiveTitle
  /-- The way from the home page to this one. -/
  | breadcrumbs
  /-- The posts of an archive. -/
  | archivePosts
  /-- The menu of the site. -/
  | menu
  /-- A form to search, as part of the site. -/
  | searchForm
  /-- The icons of social networks, as part of the site. -/
  | socialIcons
deriving DecidableEq, Repr

namespace ModuleType

/-- All types in the order of the catalog. -/
def all : List ModuleType :=
  [.pageSection, .row, .column, .heading, .text, .image, .button, .blurb, .divider, .code, .cta,
    .numberCounter, .circleCounter, .barCounter, .barCounterItem, .icon, .testimonial, .teamMember,
    .pricingTable, .pricingTableItem, .socialFollow, .socialFollowItem, .comments, .countdown,
    .sidebar, .postNavigation, .shop, .accordion, .accordionItem, .tabs, .tabsItem, .toggle, .audio,
    .video, .gallery, .slider, .sliderItem, .videoSlider, .videoSliderItem, .map, .mapPin,
    .contactForm, .contactFormField, .login, .signup, .search, .blog, .portfolio,
    .filterablePortfolio, .postSlider, .fullwidthHeader, .fullwidthImage, .fullwidthMenu,
    .fullwidthSlider, .fullwidthSliderItem, .fullwidthPortfolio, .fullwidthCode, .fullwidthMap,
    .fullwidthPostSlider, .fullwidthPostTitle, .postTitle, .postContent, .siteLogo, .featuredImage,
    .postExcerpt, .postMeta, .authorBox, .relatedPosts, .archiveTitle, .breadcrumbs, .archivePosts,
    .menu, .searchForm, .socialIcons]

/-- The name of a type. -/
def slug : ModuleType → String
  | .pageSection => "section"
  | .row => "row"
  | .column => "column"
  | .heading => "heading"
  | .text => "text"
  | .image => "image"
  | .button => "button"
  | .blurb => "blurb"
  | .divider => "divider"
  | .code => "code"
  | .cta => "cta"
  | .numberCounter => "number_counter"
  | .circleCounter => "circle_counter"
  | .barCounter => "bar_counter"
  | .barCounterItem => "bar_counter_item"
  | .icon => "icon"
  | .testimonial => "testimonial"
  | .teamMember => "team_member"
  | .pricingTable => "pricing_table"
  | .pricingTableItem => "pricing_table_item"
  | .socialFollow => "social_follow"
  | .socialFollowItem => "social_follow_item"
  | .comments => "comments"
  | .countdown => "countdown"
  | .sidebar => "sidebar"
  | .postNavigation => "post_navigation"
  | .shop => "shop"
  | .accordion => "accordion"
  | .accordionItem => "accordion_item"
  | .tabs => "tabs"
  | .tabsItem => "tabs_item"
  | .toggle => "toggle"
  | .audio => "audio"
  | .video => "video"
  | .gallery => "gallery"
  | .slider => "slider"
  | .sliderItem => "slider_item"
  | .videoSlider => "video_slider"
  | .videoSliderItem => "video_slider_item"
  | .map => "map"
  | .mapPin => "map_pin"
  | .contactForm => "contact_form"
  | .contactFormField => "contact_form_field"
  | .login => "login"
  | .signup => "signup"
  | .search => "search"
  | .blog => "blog"
  | .portfolio => "portfolio"
  | .filterablePortfolio => "filterable_portfolio"
  | .postSlider => "post_slider"
  | .fullwidthHeader => "fullwidth_header"
  | .fullwidthImage => "fullwidth_image"
  | .fullwidthMenu => "fullwidth_menu"
  | .fullwidthSlider => "fullwidth_slider"
  | .fullwidthSliderItem => "fullwidth_slider_item"
  | .fullwidthPortfolio => "fullwidth_portfolio"
  | .fullwidthCode => "fullwidth_code"
  | .fullwidthMap => "fullwidth_map"
  | .fullwidthPostSlider => "fullwidth_post_slider"
  | .fullwidthPostTitle => "fullwidth_post_title"
  | .postTitle => "post_title"
  | .postContent => "post_content"
  | .siteLogo => "site_logo"
  | .featuredImage => "featured_image"
  | .postExcerpt => "post_excerpt"
  | .postMeta => "post_meta"
  | .authorBox => "author_box"
  | .relatedPosts => "related_posts"
  | .archiveTitle => "archive_title"
  | .breadcrumbs => "breadcrumbs"
  | .archivePosts => "archive_posts"
  | .menu => "menu"
  | .searchForm => "search_form"
  | .socialIcons => "social_icons"

/-- The type of the given name. -/
def ofSlug? (s : String) : Option ModuleType := all.find? fun t => t.slug == s

theorem mem_all (t : ModuleType) : t ∈ all := by cases t <;> decide

end ModuleType

/-- A category of module types. -/
inductive Category where
  /-- The parts that a page is divided into. -/
  | layout
  /-- What a page has to say: texts, pictures, buttons, counters. -/
  | content
  /-- Modules that react to the reader. -/
  | interactive
  /-- Pictures, sound and maps. -/
  | media
  /-- Forms that the reader fills in. -/
  | forms
  /-- Lists of posts. -/
  | blog
  /-- Modules as wide as the page. -/
  | fullwidth
  /-- The parts of a site. -/
  | theme
deriving DecidableEq, Repr

namespace Category

/-- All categories. -/
def all : List Category :=
  [.layout, .content, .interactive, .media, .forms, .blog, .fullwidth, .theme]

/-- The name of a category. -/
def name : Category → String
  | layout => "structure"
  | content => "content"
  | interactive => "interactive"
  | media => "media"
  | forms => "forms"
  | blog => "blog"
  | fullwidth => "fullwidth"
  | theme => "theme"

/-- The category of the given name. -/
def ofName? (s : String) : Option Category := all.find? fun c => c.name == s

end Category

end PageModules
