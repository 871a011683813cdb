import StyleTree.Sheet.Loader
import StyleTree.Sheet.Rule
import StyleTree.Url.Parser
import StyleTree.Json
import StyleTree.Selector.Printer
import StyleTree.Selector.Specificity
import StyleTree.Document.Options
import StyleTree.Document.Registration
import StyleTree.Text.Language
import StyleTree.Text.Direction
import StyleTree.Tree.Basic
import StyleTree.Page.Attributes
import StyleTree.Page.Structure
import StyleTree.Page.Direction
import StyleTree.Page.Hints
import StyleTree.Selector.Position
import StyleTree.Document.Basic
import StyleTree.Document.Template
import StyleTree.Page.Label
import StyleTree.Proofs.Tree.Links
import StyleTree.Proofs.Tree.Order
import StyleTree.Proofs.Document.Step
import StyleTree.Proofs.Document.Course
import StyleTree.Proofs.Document.Tree
import StyleTree.Proofs.Document.Refused
import StyleTree.Proofs.Sheets.Definers
import StyleTree.Proofs.Sheets.Membership
import StyleTree.Proofs.Sheets.Build
import StyleTree.Proofs.Sheets.Same
import StyleTree.Proofs.Sheets.Coherence
import StyleTree.Proofs.Sheets.Current
import StyleTree.Proofs.Sheets.Spared
import StyleTree.Proofs.Sheets.Requests
import StyleTree.Proofs.Sheets.Recorded
import StyleTree.Proofs.Style.Elements
import StyleTree.Proofs.Style.Traits
import StyleTree.Proofs.Style.Reading
import StyleTree.Proofs.Style.Cascade
import StyleTree.Proofs.Style.Quiet
import StyleTree.Proofs.Style.Current
import StyleTree.Proofs.Sheets.Selection
import StyleTree.Proofs.Style.Dated
import StyleTree.Proofs.Style.Transparent
import StyleTree.Proofs.Style.Memoised
import StyleTree.Proofs.Style.Shared
import StyleTree.Proofs.Selector.Relations
import StyleTree.Proofs.Selector.Search
import StyleTree.Proofs.Selector.Chain
import StyleTree.Proofs.Selector.Arguments
import StyleTree.Proofs.Selector.Position
import StyleTree.Proofs.Selector.Relative
import StyleTree.Proofs.Css.Spelling
import StyleTree.Proofs.Css.Blocks
import StyleTree.Proofs.Css.Proper
import StyleTree.Proofs.Css.AnPlusB
import StyleTree.Proofs.Css.Lists
import StyleTree.Proofs.Selector.Canonical
import StyleTree.Proofs.Selector.Fits
import StyleTree.Proofs.Selector.Readers
import StyleTree.Proofs.Selector.Spelling
import StyleTree.Proofs.Selector.RoundTrip
import StyleTree.Proofs.Selector.Reread
import StyleTree.Proofs.Document.TreeOrder
import StyleTree.Proofs.Document.Placement
import StyleTree.Proofs.Document.Modes
import StyleTree.Proofs.Selector.QuirksMode
import StyleTree.Proofs.Selector.Extended
import StyleTree.Proofs.Selector.Handle
import StyleTree.Proofs.Selector.PseudoElement
import StyleTree.Proofs.Tree.Traversal
import StyleTree.Proofs.Document.Traversal
import StyleTree.Proofs.Document.Queries
import StyleTree.Proofs.Sheets.Effective
import StyleTree.Proofs.Style.Precedence
import StyleTree.Proofs.Page.RadioGroups
import StyleTree.Proofs.Text.Language
import StyleTree.Proofs.Page.Disabled
import StyleTree.Proofs.Page.DefaultButton
import StyleTree.Proofs.Page.Direction
import StyleTree.Proofs.Selector.Numbering
import StyleTree.Proofs.Css.Continued
import StyleTree.Proofs.Css.Joined
import StyleTree.Proofs.Css.Stops
import StyleTree.Proofs.Text.Trim
import StyleTree.Proofs.Css.Declarations
import StyleTree.Proofs.Css.Blanks
import StyleTree.Proofs.Css.MediaQueries
import StyleTree.Proofs.Css.RuleLists
import StyleTree.Proofs.Sheets.Composed
import StyleTree.Proofs.Css.MediaLists
import StyleTree.Proofs.Css.MediaText
import StyleTree.Proofs.Selector.PseudoClassText
import StyleTree.Proofs.Style.Declared
import StyleTree.Proofs.Css.Progression
import StyleTree.Proofs.Document.Elements
import StyleTree.Proofs.Document.Attributes
import StyleTree.Proofs.Document.States
import StyleTree.Proofs.Page.Dimensions
