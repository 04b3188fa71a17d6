import NextApp.Lib.Outcome
import NextApp.Model.Value

/-! # The user session

What `UserProvider.login` writes into the provider and into the service that it logs in through, request by request.
The tokens for notifications and the preferences of the device are left out. -/

namespace NextApp

/-- `v[k]` on a `dynamic` value for a text `k`: none when it throws. -/
def Value.index? (v : Value) (k : String) : Option Value := v.asMap?.map fun d => Doc.at d k

/-- `v[0]` on a `dynamic` value: the keys of a map are texts. -/
def Value.first? : Value → Option Value
  | .list (x :: _) => some x
  | .map _ => some .null
  | .str s => s.toList.head?.map fun c => .str (String.ofList [c])
  | _ => none

/-- `List<Map>.from`. -/
def Value.maps? : Value → Option (List Doc)
  | .list xs => xs.mapM Value.asMap?
  | _ => none

/-- How a request of `dio.get` ends: with an exception, or with a response of any status. -/
inductive HttpResult where
  | failed
  | response (statusCode : Nat) (data : Value) (setCookie : Option String)

structure APIService where
  baseUrl : String := ""
  /-- `GlobalVariables().getBaseUrl` -/
  newVersionBaseUrl : String := ""
  cookie : Dict String String := []
deriving DecidableEq

namespace APIService

def changeUrl (s : APIService) (url : String) : APIService :=
  { s with baseUrl := url ++ "/api/", newVersionBaseUrl := url ++ "/api/" }

/-- The request goes to a fixed host. A message other than `Domain Is Active` makes the domain inactive. -/
def checkUrlValidation : HttpResult → Option Bool
  | .failed => none
  | .response _ data _ =>
    data.asMap?.bind fun json => (Doc.at json "message").asString?.map fun message => message = "Domain Is Active"

def login (s : APIService) : HttpResult → Outcome (APIService × Option Doc)
  | .failed => .threw (s, none)
  | .response statusCode data setCookie =>
    -- the message is printed before the cookie is taken
    .need (s, none) (data.index? "message") fun message =>
    let s := { s with cookie := [("Cookie", setCookie.getD "")] }
    if statusCode = 200 then .done (s, data.asMap?)
    else if message ≠ .null then .threw (s, none)
    else .done (s, none)

end APIService

structure WarehouseModel where
  docName : String
  applicableFor : String
  isDefault : Int
deriving DecidableEq, Repr

def WarehouseModel.fromJson (json : Doc) : Option WarehouseModel :=
  ((Doc.at json "doc").textOr? "").bind fun docName =>
  ((Doc.at json "applicable_for").textOr? "").bind fun applicableFor =>
  (Doc.at json "is_default").asIntOrNull?.map fun isDefault => ⟨docName, applicableFor, isDefault.getD 0⟩

structure UserProvider where
  service : APIService := {}
  username : String := ""
  modules : List Doc := []
  user : Option String := none
  companyDefaults : Doc := []
  defaultCurrency : String := ""
  defaultSellingPriceList : String := ""
  defaultBuyingPriceList : String := ""
  defaultTax : List Doc := []
  url : Option String := none
  userId : Option String := none
  warehouseList : List WarehouseModel := []
deriving DecidableEq

/-- `url.replaceRange(url.length - 1, url.length, '')` for a url that ends in a slash. -/
def dropSlash (url : String) : String :=
  if url.toList.getLast? = some '/' then String.ofList url.toList.dropLast else url

/-! ### What the response of a login holds: `none` is a thrown exception -/

/-- `success_key.toString().toLowerCase() == 'true'`. -/
def successKey? (res : Doc) : Option Bool :=
  ((Doc.at res "message").index? "success_key").map fun key =>
    match key with
    | .bool b => b
    | .str s => s.toLower = "true"
    | _ => false

/-- The warehouses of the user's permissions, if there are any. -/
def warehouses? (message : Value) : Option (Option (List WarehouseModel)) :=
  ((message.index? "user_permissions").bind fun permissions => permissions.index? "Warehouse").bind fun warehouse =>
    match warehouse with
    | .null => some none
    | .list xs => (xs.mapM fun e : Value => e.asMap?.bind WarehouseModel.fromJson).map some
    | _ => none

/-- `company_defaults[0][k]` as a `String`. -/
def companyText? (message : Value) (k : String) : Option String :=
  (((message.index? "company_defaults").bind Value.first?).bind fun defaults => defaults.index? k).bind Value.asString?

def reportsModule : Doc :=
  [("Selling Reports", .str "https://eat.erpcloud.systems/files/selling_reports.png")]

namespace UserProvider

def logout (s : UserProvider) : UserProvider := { s with user := none, url := none }

def setDefaults (s : UserProvider) (message : Value) : Outcome UserProvider :=
  .need s (warehouses? message) fun warehouses =>
  let s := { s with warehouseList := warehouses.getD s.warehouseList }
  .need s (companyText? message "default_currency") fun defaultCurrency =>
  let s := { s with defaultCurrency }
  .need s (companyText? message "default_selling_price_list") fun defaultSellingPriceList =>
  let s := { s with defaultSellingPriceList }
  .need s (companyText? message "default_buying_price_list") fun defaultBuyingPriceList =>
  let s := { s with defaultBuyingPriceList }
  .need s (((message.index? "company_defaults").bind Value.first?).bind Value.asMap?) fun companyDefaults =>
  .done { s with companyDefaults }

/-- The first `try` block of `login` with its `catch`. -/
def takeDefaults (s : UserProvider) (message : Value) : UserProvider :=
  match s.setDefaults message with
  | .done s => s
  | .threw s => { s with defaultCurrency := "-", companyDefaults := [] }

/-- `login` from the success key on. -/
def takeResponse (s : UserProvider) (username url : String) (res : Doc) : Outcome UserProvider :=
  let message := Doc.at res "message"
  .need s ((message.index? "modules").bind Value.maps?) fun modules =>
  let s := { s with modules := modules ++ [reportsModule] }
  .need s ((Doc.at res "full_name").textOr? "none") fun fullName =>
  let s := { s with username := fullName }
  .need s ((message.index? "user_id").bind fun userId => userId.textOr? "none") fun userId =>
  let s := { s with userId := some userId }
  let s := s.takeDefaults message
  let s := { s with defaultTax := ((message.index? "default_tax_template").bind Value.maps?).getD s.defaultTax }
  .done { s with user := some username, url := some url }

inductive LoginEnd where
  | loggedIn
  | inactive
  | threw
deriving DecidableEq, Repr

/-- `login`, with the results of its two requests. -/
def login (s : UserProvider) (username url : String) (check response : HttpResult) : LoginEnd × UserProvider :=
  match APIService.checkUrlValidation check with
  | none => (.threw, s)
  | some false => (.inactive, s)
  | some true =>
    let url := dropSlash url
    let s := { s with service := s.service.changeUrl url }
    match s.service.login response with
    | .threw (service, _) => (.threw, { s with service })
    | .done (service, res) =>
      let s := { s with service }
      match res.filter fun res => successKey? res = some true with
      | none => (.threw, s)
      | some res =>
        match s.takeResponse username url res with
        | .threw s => (.threw, s)
        | .done s => (.loggedIn, s)

end UserProvider

example : (UserProvider.login {} "sam" "https://erp.test/" (.response 200 (.map [("message", .str "Domain Is Active")]) none)
    (.response 401 (.map [("message", .null)]) (some "sid=Guest"))).2.service.baseUrl = "https://erp.test/api/" := by
  decide

end NextApp
