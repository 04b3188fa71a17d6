import Mathlib.Tactic.ByContra
import NextApp.Model.UserProvider

/-! # Logging in

A login writes the address of the server and the cookie before it knows how it ends, and nothing takes them back. A
login that succeeds writes the parts of the user's session one after the other: what its response lacks stays as it
was for the user before. -/

namespace NextApp.Login
open UserProvider

variable {s s₁ s₂ t t₁ t₂ : UserProvider} {username url : String} {check response : HttpResult}

/-! ### Logins that fail -/

/-- The response that the login goes on with: it has come, and its success key is true. -/
def accepted (s : APIService) (response : HttpResult) : Option Doc :=
  match s.login response with
  | .done (_, res) => res.filter fun res => successKey? res = some true
  | .threw _ => none

/-- The domain is inactive, a request throws, or the success key of the response is not true. -/
def Fails (s : UserProvider) (check response : HttpResult) : Prop :=
  APIService.checkUrlValidation check = some true → accepted s.service response = none

instance (s : UserProvider) (check response : HttpResult) : Decidable (Fails s check response) :=
  inferInstanceAs (Decidable (_ → _))

/-- The cookie that a response leaves in the headers, if it gets that far. -/
def cookieOf : HttpResult → Option String
  | .failed => none
  | .response _ data setCookie => (data.index? "message").map fun _ => setCookie.getD ""

theorem service_login (s : APIService) (response : HttpResult) :
    (s.login response).state.1 = { s with cookie := ((cookieOf response).map fun c => [("Cookie", c)]).getD s.cookie } := by
  cases response with
  | failed => rfl
  | response statusCode data setCookie =>
    rw [APIService.login, cookieOf]
    cases data.index? "message" with
    | none => rfl
    | some message =>
      simp only [Outcome.need_some, Option.map_some, Option.getD_some]
      split
      · rfl
      · split <;> rfl

theorem accepted_congr (a b : APIService) (response : HttpResult) : accepted a response = accepted b response := by
  cases response with
  | failed => rfl
  | response statusCode data setCookie =>
    rw [accepted, accepted, APIService.login, APIService.login]
    cases data.index? "message" with
    | none => rfl
    | some message =>
      simp only [Outcome.need_some]
      split_ifs <;> rfl

theorem login_of_invalid (h : APIService.checkUrlValidation check ≠ some true) :
    (s.login username url check response).1 ≠ .loggedIn ∧ (s.login username url check response).2 = s := by
  rw [UserProvider.login]
  cases hcheck : APIService.checkUrlValidation check with
  | none => exact ⟨nofun, rfl⟩
  | some valid =>
    cases valid with
    | false => exact ⟨nofun, rfl⟩
    | true => exact absurd hcheck h

theorem login_of_rejected (hcheck : APIService.checkUrlValidation check = some true)
    (h : accepted s.service response = none) :
    s.login username url check response =
      (.threw, { s with service := ((s.service.changeUrl (dropSlash url)).login response).state.1 }) := by
  rw [accepted_congr s.service (s.service.changeUrl (dropSlash url)), accepted] at h
  rw [UserProvider.login, hcheck]
  dsimp only
  split at h
  · next service res hlogin =>
    rw [hlogin]
    dsimp only
    rw [h]
    rfl
  · next p hlogin =>
    rw [hlogin]
    rfl

/-- A login that ends without success leaves the session as it was exactly when it did not get to its request, or the
    address and the cookie that it has written are those that were there. -/
theorem unchanged_iff (username url : String) (h : Fails s check response) :
    (s.login username url check response).1 ≠ .loggedIn ∧
      ((s.login username url check response).2 = s ↔
        (APIService.checkUrlValidation check = some true →
          s.service.baseUrl = dropSlash url ++ "/api/" ∧ s.service.newVersionBaseUrl = dropSlash url ++ "/api/" ∧
            ∀ c ∈ cookieOf response, s.service.cookie = [("Cookie", c)])) := by
  by_cases hcheck : APIService.checkUrlValidation check = some true
  · rw [login_of_rejected hcheck (h hcheck), service_login]
    refine ⟨nofun, ?_⟩
    rw [forall_prop_of_true hcheck]
    obtain ⟨⟨baseUrl, newVersionBaseUrl, cookie⟩, _⟩ := s
    simp only [APIService.changeUrl, UserProvider.mk.injEq, APIService.mk.injEq, and_true]
    refine and_congr eq_comm (and_congr eq_comm ?_)
    cases cookieOf response with
    | none => simp
    | some c => simpa using eq_comm
  · have hinvalid : (s.login username url check response).1 ≠ .loggedIn ∧ (s.login username url check response).2 = s :=
      login_of_invalid hcheck
    exact ⟨hinvalid.1, iff_of_true hinvalid.2 fun hc => absurd hc hcheck⟩

/-- A wrong password at another server leaves the app at that server, with the cookie of a guest. -/
theorem server_of_wrong_password :
    let s : UserProvider :=
      { service := ⟨"https://a.test/api/", "https://a.test/api/", [("Cookie", "sid=1")]⟩
        user := some "sam", url := some "https://a.test" }
    let check := HttpResult.response 200 (.map [("message", .str "Domain Is Active")]) none
    let response := HttpResult.response 401 (.map [("message", .str "Incorrect password")]) (some "sid=Guest")
    Fails s check response ∧
      (s.login "sam" "https://b.test" check response).2.service =
        ⟨"https://b.test/api/", "https://b.test/api/", [("Cookie", "sid=Guest")]⟩ ∧
      (s.login "sam" "https://b.test" check response).2 ≠ s := by
  decide

/-- At a server that is not there nothing changes when the app is at that server already. -/
theorem unchanged_at_same_server :
    let s : UserProvider :=
      { service := ⟨"https://a.test/api/", "https://a.test/api/", [("Cookie", "sid=1")]⟩
        user := some "sam", url := some "https://a.test" }
    let check := HttpResult.response 200 (.map [("message", .str "Domain Is Active")]) none
    (s.login "sam" "https://a.test/" check .failed).2 = s := by
  intro s check
  exact (unchanged_iff "sam" "https://a.test/" (by decide)).2.mpr (by decide)

/-! ### Logins that succeed -/

/-- What the app keeps of the user who has logged in. -/
structure Profile where
  modules : List Doc
  username : String
  userId : Option String
  defaultCurrency : String
  defaultSellingPriceList : String
  defaultBuyingPriceList : String
  companyDefaults : Doc
  defaultTax : List Doc
  warehouseList : List WarehouseModel
deriving DecidableEq

def profile (s : UserProvider) : Profile where
  modules := s.modules
  username := s.username
  userId := s.userId
  defaultCurrency := s.defaultCurrency
  defaultSellingPriceList := s.defaultSellingPriceList
  defaultBuyingPriceList := s.defaultBuyingPriceList
  companyDefaults := s.companyDefaults
  defaultTax := s.defaultTax
  warehouseList := s.warehouseList

def message : HttpResult → Value
  | .failed => .null
  | .response _ data _ => (data.index? "message").getD .null

/-- The price lists are read after the warehouses and the currency, and only if these can be read. -/
def sellingPriceList? (m : Value) : Option String :=
  (warehouses? m).bind fun _ => (companyText? m "default_currency").bind fun _ =>
    companyText? m "default_selling_price_list"

def buyingPriceList? (m : Value) : Option String :=
  (sellingPriceList? m).bind fun _ => companyText? m "default_buying_price_list"

def defaultTax? (m : Value) : Option (List Doc) := (m.index? "default_tax_template").bind Value.maps?

theorem takeDefaults_eq (m : Value) :
    ∃ currency defaults, ∀ s : UserProvider, s.takeDefaults m =
      { s with
        warehouseList := (warehouses? m).join.getD s.warehouseList
        defaultCurrency := currency
        defaultSellingPriceList := (sellingPriceList? m).getD s.defaultSellingPriceList
        defaultBuyingPriceList := (buyingPriceList? m).getD s.defaultBuyingPriceList
        companyDefaults := defaults } := by
  simp only [takeDefaults, setDefaults, buyingPriceList?, sellingPriceList?]
  cases warehouses? m with
  | none => exact ⟨_, _, fun _ => rfl⟩
  | some warehouses =>
    cases companyText? m "default_currency" with
    | none => exact ⟨_, _, fun _ => rfl⟩
    | some currency =>
      cases companyText? m "default_selling_price_list" with
      | none => exact ⟨_, _, fun _ => rfl⟩
      | some selling =>
        cases companyText? m "default_buying_price_list" with
        | none => exact ⟨_, _, fun _ => rfl⟩
        | some buying =>
          cases ((m.index? "company_defaults").bind Value.first?).bind Value.asMap? with
          | none => exact ⟨_, _, fun _ => rfl⟩
          | some defaults => exact ⟨_, _, fun _ => rfl⟩

/-- The parts of a profile that a response may lack, taken from the state before where it does. -/
def taken (m : Value) (p : Profile) (s : UserProvider) : Profile :=
  { p with
    defaultSellingPriceList := (sellingPriceList? m).getD s.defaultSellingPriceList
    defaultBuyingPriceList := (buyingPriceList? m).getD s.defaultBuyingPriceList
    defaultTax := (defaultTax? m).getD s.defaultTax
    warehouseList := (warehouses? m).join.getD s.warehouseList }

theorem profile_takeResponse (username url : String) (res : Doc) :
    ∃ p, ∀ s t, s.takeResponse username url res = .done t → profile t = taken (Doc.at res "message") p s := by
  obtain ⟨currency, defaults, htake⟩ := takeDefaults_eq (Doc.at res "message")
  simp only [takeResponse]
  cases ((Doc.at res "message").index? "modules").bind Value.maps? with
  | none =>
    refine ⟨profile {}, fun s t h => ?_⟩
    rw [Outcome.need_none] at h
    cases h
  | some modules =>
    cases (Doc.at res "full_name").textOr? "none" with
    | none =>
      refine ⟨profile {}, fun s t h => ?_⟩
      simp only [Outcome.need_some, Outcome.need_none] at h
      cases h
    | some fullName =>
      cases ((Doc.at res "message").index? "user_id").bind fun userId => userId.textOr? "none" with
      | none =>
        refine ⟨profile {}, fun s t h => ?_⟩
        simp only [Outcome.need_some, Outcome.need_none] at h
        cases h
      | some userId =>
        refine ⟨⟨modules ++ [reportsModule], fullName, some userId, currency, "", "", defaults, [], []⟩, fun s t h => ?_⟩
        simp only [Outcome.need_some] at h
        cases h
        simp only [profile, taken, htake, defaultTax?]

theorem message_of_accepted {a : APIService} {res : Doc} (h : accepted a response = some res) :
    Doc.at res "message" = message response := by
  cases response with
  | failed => cases h
  | response statusCode data setCookie =>
    rw [accepted, APIService.login] at h
    rw [message]
    cases data with
    | map d =>
      simp only [Value.index?, Value.asMap?, Option.map_some, Outcome.need_some, Option.getD_some] at h ⊢
      split at h
      · next service res' hdone =>
        split_ifs at hdone
        · cases hdone
          rw [(Option.filter_eq_some_iff.mp h).1 |> Option.some.inj]
        · cases hdone
          cases h
      · cases h
    | _ => cases h

theorem profile_login (username url : String) (check response : HttpResult) :
    ∃ p, ∀ s t, s.login username url check response = (.loggedIn, t) → profile t = taken (message response) p s := by
  cases hres : accepted {} response with
  | none =>
    refine ⟨profile {}, fun s t h => ?_⟩
    rw [accepted_congr {} s.service] at hres
    by_cases hcheck : APIService.checkUrlValidation check = some true
    · rw [login_of_rejected hcheck hres] at h
      cases h
    · exact absurd (congrArg Prod.fst h) (login_of_invalid hcheck).1
  | some res =>
    obtain ⟨p, hp⟩ := profile_takeResponse username (dropSlash url) res
    refine ⟨p, fun s t h => ?_⟩
    by_cases hcheck : APIService.checkUrlValidation check = some true
    · rw [accepted_congr {} (s.service.changeUrl (dropSlash url))] at hres
      have hmessage := message_of_accepted hres
      rw [accepted] at hres
      rw [UserProvider.login, hcheck] at h
      dsimp only at h
      split at hres
      · next service res' hlogin =>
        rw [hlogin] at h
        dsimp only at h
        rw [hres] at h
        dsimp only at h
        split at h
        · cases h
        · next u htake =>
          cases h
          rw [hp _ _ htake, hmessage]
          rfl
      · cases hres
    · exact absurd (congrArg Prod.fst h) (login_of_invalid hcheck).1

theorem getD_eq_getD_iff {α : Type*} (x : Option α) (a b : α) : x.getD a = x.getD b ↔ (x = none → a = b) := by
  cases x <;> simp

/-- Two users who log in with the same response have the same profile exactly when each part that the response lacks
    was the same for both before. -/
theorem profile_eq_iff (h₁ : s₁.login username url check response = (.loggedIn, t₁))
    (h₂ : s₂.login username url check response = (.loggedIn, t₂)) :
    profile t₁ = profile t₂ ↔
      (sellingPriceList? (message response) = none → s₁.defaultSellingPriceList = s₂.defaultSellingPriceList) ∧
      (buyingPriceList? (message response) = none → s₁.defaultBuyingPriceList = s₂.defaultBuyingPriceList) ∧
      (defaultTax? (message response) = none → s₁.defaultTax = s₂.defaultTax) ∧
      ((warehouses? (message response)).join = none → s₁.warehouseList = s₂.warehouseList) := by
  obtain ⟨p, hp⟩ := profile_login username url check response
  rw [hp s₁ t₁ h₁, hp s₂ t₂ h₂]
  simp only [taken, Profile.mk.injEq, true_and, getD_eq_getD_iff]

/-- A response with all parts gives the second user a profile without anything of the first one's. -/
theorem profile_of_whole_response :
    let check := HttpResult.response 200 (.map [("message", .str "Domain Is Active")]) none
    let response := HttpResult.response 200 (.map [("full_name", .str "Kim"), ("message", .map [
      ("success_key", .bool true), ("user_id", .str "kim"), ("modules", .list []),
      ("user_permissions", .map [("Warehouse", .list [])]), ("default_tax_template", .list []),
      ("company_defaults", .list [.map [("default_currency", .str "EGP"),
        ("default_selling_price_list", .str "Retail"), ("default_buying_price_list", .str "Buying")]])])]) (some "sid=2")
    let s : UserProvider := { user := some "sam", warehouseList := [⟨"Stores", "", 1⟩] }
    profile (s.login "kim" "https://a.test" check response).2 =
      profile (UserProvider.login {} "kim" "https://a.test" check response).2 := by
  intro check response s
  have h₁ : (s.login "kim" "https://a.test" check response).1 = .loggedIn := by decide
  have h₂ : (UserProvider.login {} "kim" "https://a.test" check response).1 = .loggedIn := by decide
  exact (profile_eq_iff (Prod.ext h₁ rfl) (Prod.ext h₂ rfl)).mpr (by decide)

/-- The first user's warehouses stay with the second one, whose permissions name none. -/
theorem warehouses_of_other_user :
    let check := HttpResult.response 200 (.map [("message", .str "Domain Is Active")]) none
    let response := HttpResult.response 200 (.map [("full_name", .str "Kim"), ("message", .map [
      ("success_key", .bool true), ("user_id", .str "kim"), ("modules", .list []),
      ("user_permissions", .map []), ("default_tax_template", .list []),
      ("company_defaults", .list [.map [("default_currency", .str "EGP"),
        ("default_selling_price_list", .str "Retail"), ("default_buying_price_list", .str "Buying")]])])]) (some "sid=2")
    let s : UserProvider := { user := some "sam", warehouseList := [⟨"Stores", "", 1⟩] }
    (s.logout.login "kim" "https://a.test" check response).1 = .loggedIn ∧
      (UserProvider.login {} "kim" "https://a.test" check response).1 = .loggedIn ∧
      profile (s.logout.login "kim" "https://a.test" check response).2 ≠
        profile (UserProvider.login {} "kim" "https://a.test" check response).2 := by
  decide

end NextApp.Login
