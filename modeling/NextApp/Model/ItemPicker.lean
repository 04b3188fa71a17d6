import NextApp.Lib.Slots
import NextApp.Model.ItemTable
import NextApp.Model.ItemsCubit
import NextApp.Model.LinkField
import NextApp.Model.NumericField

/-! # Picking items

`ItemListScreen` over the `ItemsCubit` of the app: the cards of the items, which keep a quantity and a unit by their place in
the list, the dialog of the units, the searches that wait for their timer, and the rows that the cards add to `newItemList`. -/

namespace NextApp

structure UomModel where
  name : String
  uom : String
  conversionFactor : Float
deriving DecidableEq

def UomModel.fromJson (json : Doc) : Option UomModel :=
  ((Doc.at json "name").textOr? "none").bind fun name =>
  ((Doc.at json "uom").textOr? "none").bind fun uom =>
  ((Doc.at json "conversion_factor").doubleOr? 0).map fun conversionFactor => ⟨name, uom, conversionFactor⟩

structure NewItemModel where
  name : String
  uom : String
  imageUrl : String
  itemCode : String
  barCode : String
  itemName : String
  itemGroup : String
  itemTaxTemplate : String
  netRate : Float
  taxPercent : Float
  priceListRate : Float
  uomList : List UomModel
deriving DecidableEq

/-- `List.from(v)` with each entry read from its map; null and all else that is no list throw. -/
def Value.listOf? {α : Type} (fromJson : Doc → Option α) : Value → Option (List α)
  | .list xs => xs.mapM fun e => e.asMap?.bind fromJson
  | _ => none

namespace NewItemModel

def fromJson (json : Doc) : Option NewItemModel :=
  ((Doc.at json "name").textOr? "none").bind fun name =>
  ((Doc.at json "uom").textOr? "none").bind fun uom =>
  ((Doc.at json "image").textOr? "none").bind fun imageUrl =>
  ((Doc.at json "item_code").textOr? "none").bind fun itemCode =>
  ((Doc.at json "barcode").textOr? "none").bind fun barCode =>
  ((Doc.at json "item_name").textOr? "none").bind fun itemName =>
  ((Doc.at json "item_group").textOr? "none").bind fun itemGroup =>
  ((Doc.at json "item_tax_template").textOr? "").bind fun itemTaxTemplate =>
  ((Doc.at json "net_rate").doubleOr? 0).bind fun netRate =>
  ((Doc.at json "tax_percent").doubleOr? 0).bind fun taxPercent =>
  ((Doc.at json "price_list_rate").doubleOr? 0).bind fun priceListRate =>
  ((Doc.at json "uom_list").listOf? UomModel.fromJson).map fun uomList =>
    ⟨name, uom, imageUrl, itemCode, barCode, itemName, itemGroup, itemTaxTemplate, netRate, taxPercent, priceListRate, uomList⟩

/-- What `setItemToList` is given for an item; the taxes go with it for a sales invoice. -/
def picked (item : NewItemModel) (salesInvoice : Bool) (qty : Int) (uom : String) (rate : Float) : PickedItem Num where
  qty := qty
  rate := .double rate
  others :=
    [("item_code", .str item.itemCode), ("item_name", .str item.itemName), ("item_group", .str item.itemGroup),
      ("image", .str item.imageUrl), ("uom", .str uom)] ++
    if salesInvoice then [("item_tax_template", .str item.itemTaxTemplate), ("tax_percent", .double item.taxPercent)] else []

end NewItemModel

/-- The state of an `ItemCardWidget`, with the field of its quantity. -/
structure ItemCard where
  newRate : Option Float := none
  uom : Option String := none
  qty : Int := 1
  field : LinkText := .initState (some "1")
deriving DecidableEq

namespace ItemCard

def build (c : ItemCard) : ItemCard := { c with field := c.field.didUpdateWidget (some (toString c.qty)) }

/-- The quantity stays as it is when `int.parse` throws. -/
def onChanged (c : ItemCard) (value : String) : ItemCard :=
  { c with qty := (intOfText value).getD c.qty, field := { c.field with text := value } }

def setUom (c : ItemCard) (item : NewItemModel) (u : UomModel) : ItemCard :=
  { c with uom := some u.uom, newRate := some (u.conversionFactor * item.priceListRate) }

def picked (c : ItemCard) (item : NewItemModel) (salesInvoice : Bool) (qty : Int) : PickedItem Num :=
  item.picked salesInvoice qty (c.uom.getD item.uom) (c.newRate.getD item.priceListRate)

end ItemCard

/-- The dialog of a card's units as it was built, and the place of the card while that one is there. -/
structure UomDialog where
  card : Option Nat
  uoms : List String
deriving DecidableEq

structure ItemListScreen where
  priceList : String
  /-- the text that the `debounceTimer` will search for -/
  debounce : Option String := none
  cards : Slots ItemCard := Slots.empty
  dialog : Option UomDialog := none

namespace ItemListScreen

/-- `itemCount` of the list; without the list no card is built. -/
def itemCount (cubit : ItemsCubit NewItemModel) : Nat := if cubit.shown then cubit.items.length else 0

def build (cubit : ItemsCubit NewItemModel) (sc : ItemListScreen) : ItemListScreen :=
  { sc with
    cards := sc.cards.rebuild fun i => if i < itemCount cubit then some ItemCard.build else none
    dialog := sc.dialog.map fun d => { d with card := d.card.filter fun i => decide (i < itemCount cubit) } }

/-- A card leaves the part of the list that is built. -/
def dispose (sc : ItemListScreen) (i : Nat) : ItemListScreen :=
  { sc with
    cards := sc.cards.drop i
    dialog := sc.dialog.map fun d => { d with card := d.card.filter fun j => decide (j ≠ i) } }

end ItemListScreen

structure ItemPicker where
  cubit : ItemsCubit NewItemModel := {}
  pending : List ItemsRequest := []
  screen : Option ItemListScreen := none
  /-- price list and text of the searches whose screen has been left before their timer -/
  left : List (String × String) := []
  newItemList : List (ItemRow Num) := []

inductive ItemPickerEvent where
  | openScreen (priceList : String)
  /-- `didChangeDependencies` once more -/
  | loadData
  | typeSearch (value : String)
  | search
  | leftSearch (index : Nat)
  | scanBarcode (barcode : String)
  | scrollEnd
  /-- the answer to a request: its `message`, none when the request throws -/
  | reply (index : Nat) (message : Option Value)
  | mount (index : Nat)
  | dispose (index : Nat)
  | typeQty (index : Nat) (value : String)
  /-- a delayed update of the field of a card -/
  | update (index : Nat)
  | rebuild
  | showUoms (index : Nat)
  | tapUom (index : Nat)
  | closeUoms
  | add (index : Nat)
  | finish
  /-- what the form below makes of its rows -/
  | form (rows : List (ItemRow Num))

namespace ItemPicker

def build (s : ItemPicker) : ItemPicker := { s with screen := s.screen.map (ItemListScreen.build s.cubit) }

def call (s : ItemPicker) (priceList : String) (c : ItemListCall) : ItemPicker :=
  match c.start priceList s.cubit with
  | (_, none) => s
  | (cubit, some x) => { s with cubit, pending := s.pending ++ [x] }.build

/-- The open screen, while no dialog is over it. -/
def front (s : ItemPicker) : Option ItemListScreen := s.screen.filter fun sc => sc.dialog.isNone

/-- A card of the open screen and its item. -/
def cardAt (s : ItemPicker) (i : Nat) : Option (ItemListScreen × ItemCard × NewItemModel) :=
  s.front.bind fun sc => (sc.cards i).bind fun c => s.cubit.items[i]?.map fun item => (sc, c, item)

def setCard (s : ItemPicker) (sc : ItemListScreen) (i : Nat) (c : ItemCard) : ItemPicker :=
  { s with screen := some { sc with cards := sc.cards.put i c } }

/-- A tap on the unit at the index: with its card it throws, without a unit there as well. -/
def tapUom (s : ItemPicker) (sc : ItemListScreen) (d : UomDialog) (index : Nat) : ItemPicker :=
  match d.card with
  | none => s
  | some i =>
    match sc.cards i, s.cubit.items[i]? with
    | some c, some item =>
      match item.uomList[index]? with
      | none => s
      | some u => s.setCard { sc with dialog := none } i (c.setUom item u).build
    | _, _ => s

def add (salesInvoice : Bool) (s : ItemPicker) (sc : ItemListScreen) (i : Nat) (c : ItemCard) (item : NewItemModel) : ItemPicker :=
  -- `validate` asks for a text, `onSave` for a number
  match intOfText c.field.text with
  | none => s
  | some qty =>
    let s := s.setCard sc i { c with qty }
    { s with newItemList := (setItemToList s.newItemList (c.picked item salesInvoice qty).row).state }.build

def step (salesInvoice : Bool) (s : ItemPicker) : ItemPickerEvent → Option ItemPicker
  | .openScreen priceList =>
    if s.screen.isNone then some ({ s with screen := some { priceList } }.call priceList .loadData) else none
  | .loadData => s.screen.map fun sc => s.call sc.priceList .loadData
  | .typeSearch value => s.front.map fun sc => { s with screen := some { sc with debounce := some value } }
  | .search =>
    s.screen.bind fun sc => sc.debounce.map fun value =>
      { s with screen := some { sc with debounce := none } }.call sc.priceList (.search value)
  | .leftSearch index =>
    s.left[index]?.map fun (priceList, value) => { s with left := s.left.eraseIdx index }.call priceList (.search value)
  | .scanBarcode barcode => s.front.map fun sc => s.call sc.priceList (.scanBarcode barcode)
  | .scrollEnd =>
    s.screen.bind fun sc => if s.cubit.shown then some (s.build.call sc.priceList .scrollEnd) else none
  | .reply index message =>
    s.pending[index]?.map fun x =>
      { s with
        cubit := s.cubit.endGetAllItems x (message.bind (Value.listOf? NewItemModel.fromJson))
        pending := s.pending.eraseIdx index }.build
  | .mount index =>
    s.screen.bind fun sc =>
      if s.cubit.shown ∧ index < s.cubit.items.length ∧ (sc.cards index).isNone then some (s.setCard sc index {}) else none
  | .dispose index => s.screen.map fun sc => { s with screen := some (sc.dispose index) }
  | .typeQty index value => (s.cardAt index).map fun (sc, c, _) => s.setCard sc index (c.onChanged value)
  | .update index =>
    s.screen.bind fun sc => (sc.cards index).bind fun c =>
      if 0 < c.field.updates then some (s.setCard sc index { c with field := c.field.update }) else none
  | .rebuild => some s.build
  | .showUoms index =>
    (s.cardAt index).map fun (sc, _, item) =>
      { s with screen := some { sc with dialog := some ⟨some index, item.uomList.map (·.uom)⟩ } }
  | .tapUom index =>
    s.screen.bind fun sc => sc.dialog.bind fun d => if index < d.uoms.length then some (s.tapUom sc d index) else none
  | .closeUoms =>
    s.screen.bind fun sc => sc.dialog.map fun _ => { s with screen := some { sc with dialog := none } }
  | .add index => (s.cardAt index).map fun (sc, c, item) => add salesInvoice s sc index c item
  | .finish =>
    s.front.map fun sc =>
      { s with screen := none, left := s.left ++ (sc.debounce.map fun value => (sc.priceList, value)).toList }
  | .form rows => if s.screen.isNone then some { s with newItemList := rows } else none

end ItemPicker

end NextApp
