import NextApp.Lib.Dict
import NextApp.Lib.Grid

/-! # The cards of a page

`PageCard.build`: the rows of a card with their separators, and the widgets that are swapped for some of their titles. -/

namespace NextApp
open Grid

/-- The widgets of a card; `ω` is for those that its page gives. -/
inductive Widget (ω : Type) where
  | row (children : List (Widget ω))
  | listTitle (title : String) (value : Option String) (child : Option ω)
  /-- between two titles -/
  | container
  | divider
  | other (widget : ω)

namespace Widget
variable {ω : Type}

/-- The cast to a `Row`. -/
def children? : Widget ω → Option (List (Widget ω))
  | row children => some children
  | _ => none

def title? : Widget ω → Option String
  | listTitle title _ _ => some title
  | _ => none

def child? : Widget ω → Option ω
  | listTitle _ _ child => child
  | _ => none

end Widget

structure SwapWidget (ω : Type) where
  rowNumber : Int
  widget : ω
  widgetNumber : Int := 1

structure PageCard (ω : Type) where
  items : List (Dict String String)
  header : List (Widget ω) := []
  swapWidgets : List (SwapWidget ω) := []

variable {ω : Type}

def SwapWidget.widgetIndex (element : SwapWidget ω) : Int :=
  if element.widgetNumber = 1 then 0 else element.widgetNumber * 2 - 2

namespace PageCard

/-- The titles of one row: a separator follows each but the last. -/
def rowChildren (item : Dict String String) : List String → List (Widget ω)
  | [] => []
  | key :: keys => .listTitle key (item.get? key) none :: ((if keys = [] then [] else [.container]) ++ rowChildren item keys)

def rows : List (Dict String String) → List (Widget ω)
  | [] => []
  | item :: items =>
    .row (rowChildren item (item.map Prod.fst)) ::
      ((if items ≠ [] ∧ item ≠ [] then [.divider] else []) ++ rows items)

/-- Where the row of a swap is looked for. -/
def position (card : PageCard ω) (element : SwapWidget ω) : Int := card.header.length - 2 + element.rowNumber * 2

/-- None when an index or the cast fails. -/
def swap (card : PageCard ω) (columnChildren : List (Widget ω)) (element : SwapWidget ω) : Option (List (Widget ω)) := do
  let widget ← at? columnChildren (card.position element)
  let children ← widget.children?
  let item ← at? card.items (element.rowNumber - 1)
  let entry ← at? item (element.widgetNumber - 1)
  let children ← setAt? children element.widgetIndex (.listTitle entry.1 none (some element.widget))
  setAt? columnChildren (card.position element) (.row children)

/-- The children of the column. -/
def build (card : PageCard ω) : Option (List (Widget ω)) := card.swapWidgets.foldlM card.swap (card.header ++ rows card.items)

end PageCard

end NextApp
