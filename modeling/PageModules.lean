import PageModules.Json.Reader
import PageModules.Json.Writer
import PageModules.Style.Attributes
import PageModules.Markup.Document
import PageModules.Markup.Serialization
import PageModules.Selector.Reader
import PageModules.Layout.Shape
import PageModules.Mapping.Fields
import PageModules.Component.Extraction
import PageModules.Page.Schema
import PageModules.Walk.Session
import PageModules.Main
import PageModules.Proofs.Walk.Runs
import PageModules.Proofs.Walk.Plans
import PageModules.Proofs.Walk.Built
import PageModules.Proofs.Walk.Drafts
import PageModules.Proofs.Walk.Numbering
import PageModules.Proofs.Walk.Draws
import PageModules.Proofs.Component.Recognition
import PageModules.Proofs.Markup.Descent
import PageModules.Proofs.Walk.Grammar
import PageModules.Proofs.Walk.Contents
import PageModules.Proofs.Walk.Frontier
import PageModules.Proofs.Style.Variants
import PageModules.Proofs.Walk.Sources
import PageModules.Proofs.Walk.Frame
import PageModules.Proofs.Walk.Precedence
import PageModules.Proofs.Walk.Division
import PageModules.Proofs.Page.Schema
import PageModules.Proofs.Component.Confidence
import PageModules.Proofs.Walk.Threshold
import PageModules.Proofs.Text.Classes
import PageModules.Proofs.Text.Trimmed
import PageModules.Proofs.Text.Matches
import PageModules.Proofs.Text.Cutting
import PageModules.Proofs.Style.StyleMaps
import PageModules.Proofs.Style.Longhands
import PageModules.Proofs.Style.Idempotence
import PageModules.Proofs.Style.Declarations
import PageModules.Proofs.Style.Cascade
import PageModules.Proofs.Walk.Roles
import PageModules.Proofs.Walk.OwnText
import PageModules.Proofs.Json.Agreement
import PageModules.Proofs.Walk.Likeness
import PageModules.Proofs.Style.BaseSize
import PageModules.Proofs.Walk.FontSize
import PageModules.Proofs.Layout.Fractions
import PageModules.Proofs.Walk.Insertion
import PageModules.Proofs.Text.Places
import PageModules.Proofs.Text.Ascii
import PageModules.Proofs.Component.PlainText
import PageModules.Proofs.Walk.BareText
import PageModules.Proofs.Markup.WithoutVariants
import PageModules.Proofs.Layout.WithoutVariants
import PageModules.Proofs.Component.WithoutVariants
import PageModules.Proofs.Mapping.WithoutVariants
import PageModules.Proofs.Walk.WithoutVariants
import PageModules.Proofs.Markup.Tags
import PageModules.Proofs.Markup.Attributes
import PageModules.Proofs.Markup.Reading
import PageModules.Proofs.Walk.Detection
import PageModules.Proofs.Walk.Sessions
import PageModules.Proofs.Json.Order
import PageModules.Proofs.Page.RoundTrip
import PageModules.Proofs.Number.Integer
import PageModules.Proofs.CommandLine.Arguments
import PageModules.Proofs.CommandLine.Run
import PageModules.Proofs.Json.Disjoint
import PageModules.Proofs.Style.Categories
import PageModules.Proofs.Component.Best
import PageModules.Proofs.Walk.Forms
import PageModules.Proofs.Component.RequiredItems
import PageModules.Proofs.Component.Names
import PageModules.Proofs.Walk.ExtractedContent
import PageModules.Proofs.Style.Order
import PageModules.Proofs.Walk.WideRows
import PageModules.Proofs.Walk.Wrappers
import PageModules.Proofs.Walk.MarkedShapes
import PageModules.Proofs.Selector.Ancestors
import PageModules.Proofs.Selector.Writing
import PageModules.Proofs.Number.Rounding
import PageModules.Proofs.Mapping.FieldValues
import PageModules.Proofs.Style.History
import PageModules.Proofs.Style.GradientStops
import PageModules.Proofs.Text.Ways
import PageModules.Proofs.Style.GradientLayers
import PageModules.Proofs.Address.Hosts
import PageModules.Proofs.Component.SocialLinks
import PageModules.Proofs.Walk.HeadingLevels
import PageModules.Proofs.Text.Parentheses
import PageModules.Proofs.Text.Captures
import PageModules.Proofs.Style.Nesting
import PageModules.Proofs.Number.Characters
import PageModules.Proofs.Number.Truncation
import PageModules.Proofs.Style.StopPercentages
import PageModules.Proofs.Style.BalancedValues
import PageModules.Proofs.Style.CutCalls
import PageModules.Proofs.Component.FirstLinks
import PageModules.Proofs.Component.TabItems
import PageModules.Proofs.Number.WholeNumbers
import PageModules.Proofs.Style.LengthUnits
import PageModules.Proofs.Walk.SkippedContent
import PageModules.Proofs.CommandLine.Documents
import PageModules.Proofs.Layout.Overrides
import PageModules.Proofs.Style.DeclarationCuts
import PageModules.Proofs.Style.Tokens
import PageModules.Proofs.Text.Words
import PageModules.Proofs.Style.Groups
