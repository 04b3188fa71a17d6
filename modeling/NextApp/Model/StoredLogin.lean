import NextApp.Lib.Runs
import NextApp.Model.UserProvider

/-! # The login that the device remembers

`SharedPref` stores the user name, the password and the url of a remembered login one after the other, and a logout removes
them one after the other. The app may end at any point between two of them. The next launch logs in with what is stored, if
all three are. -/

namespace NextApp

structure StoredLogin where
  user : String
  pass : String
  url : String
deriving DecidableEq, Repr

namespace SharedPref

/-- The writes of `setUserName`, `setPass` and `setUrl`, or the removals of `clearData`. -/
def writes (login : Option StoredLogin) : List (String × Option String) :=
  [("user", login.map (·.user)), ("pass", login.map (·.pass)), ("url", login.map (·.url))]

def write (prefs : Dict String String) (key : String) : Option String → Dict String String
  | some value => prefs.set key value
  | none => prefs.remove key

/-- What `getUserData` finds: none unless all three are there. -/
def login? (prefs : Dict String String) : Option StoredLogin :=
  (prefs.get? "user").bind fun user => (prefs.get? "pass").bind fun pass => (prefs.get? "url").map fun url => ⟨user, pass, url⟩

end SharedPref

structure LoginDevice where
  prefs : Dict String String := []
  /-- what has not reached the device yet -/
  pending : List (String × Option String) := []
  provider : UserProvider := {}
  /-- the last login that was to be remembered and has not been logged out -/
  remembered : Option StoredLogin := none
deriving DecidableEq

/-- A logout is over before the requests of another login are answered. -/
inductive LoginEvent where
  | login (username password url : String) (rememberMe : Bool) (check response : HttpResult)
  | logout
  /-- the next entry reaches the device -/
  | store
  /-- the app ends, wherever it is, and is started again -/
  | launch (check response : HttpResult)

namespace LoginDevice

/-- `if (rememberMe)` at the end of `UserProvider.login`. -/
def remember (s : LoginDevice) (login : StoredLogin) : LoginDevice :=
  { s with pending := SharedPref.writes (some login), remembered := some login }

def login (s : LoginDevice) (username password url : String) (rememberMe : Bool) (check response : HttpResult) : LoginDevice :=
  match s.provider.login username url check response with
  | (.loggedIn, provider) =>
    if rememberMe then { s with provider }.remember ⟨username, password, dropSlash url⟩ else { s with provider }
  | (.inactive, provider) | (.threw, provider) => { s with provider }

/-- `getUserData` of a new process. -/
def launch (s : LoginDevice) (check response : HttpResult) : LoginDevice :=
  let s := { s with pending := [], provider := { url := s.prefs.get? "url" } }
  match SharedPref.login? s.prefs with
  | none => s
  | some stored => s.login stored.user stored.pass stored.url true check response

def step (s : LoginDevice) : LoginEvent → Option LoginDevice
  | .login username password url rememberMe check response =>
    if s.provider.user = none ∧ s.pending = [] then some (s.login username password url rememberMe check response) else none
  | .logout =>
    if s.provider.user ≠ none ∧ s.pending = [] then
      some { s with provider := s.provider.logout, pending := SharedPref.writes none, remembered := none }
    else none
  | .store =>
    match s.pending with
    | [] => none
    | (key, value) :: pending => some { s with prefs := SharedPref.write s.prefs key value, pending }
  | .launch check response => some (s.launch check response)

end LoginDevice

end NextApp
