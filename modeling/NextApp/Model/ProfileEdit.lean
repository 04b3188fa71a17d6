import NextApp.Lib.Runs
import NextApp.Lib.TextSearch
import NextApp.Model.NumericField
import NextApp.Model.Report

/-! # The profile of the user

A repository of the new version turns what a call of `Dio` ends with into a result or a failure; what it does not catch goes
through it. Over it `UserProfileBloc` and the screen where the user edits the profile, with the dialogs that its listener
opens. -/

namespace NextApp

/-! ### Calls of the server -/

/-- How a call of `Dio` ends; `dioError` has the body of its response if there was one. -/
inductive DioReply where
  | response (data : Value)
  | dioError (response : Option Value) (message : Option String)
  | error
deriving DecidableEq

inductive NetworkThrown where
  | primaryServerException (message : String)
  | other
deriving DecidableEq, Repr

inductive Failure where
  | serverFailure (errorMessage : String)
  | offlineFailure (errorMessage : String)
deriving DecidableEq, Repr

def Failure.errorMessage : Failure → String
  | serverFailure errorMessage => errorMessage
  | offlineFailure errorMessage => errorMessage

namespace DioHelper

/-- `response!.data['exception'] ?? response!.data['exc_type'] ?? message` as a `String` -/
def message? (response : Option Value) (message : Option String) : Option String := do
  let data ← response
  let data ← data.asMap?
  match Doc.at data "exception", Doc.at data "exc_type" with
  | .null, .null => message
  | .null, excType => excType.asString?
  | exception, _ => exception.asString?

def request : DioReply → Except NetworkThrown Value
  | .response data => .ok data
  | .dioError response message =>
    match message? response message with
    | some message => .error (.primaryServerException message)
    | none => .error .other
  | .error => .error .other -- `e as PrimaryServerException`

end DioHelper

/-- A method of a repository, on no reply where there is no connection. `none` is an error that goes through it. -/
def repository {α : Type} (decode : Value → Option α) : Option DioReply → Option (Except Failure α)
  | none => some (.error (.offlineFailure "There is no internet connection"))
  | some reply =>
    match DioHelper.request reply with
    | .ok data => (decode data).map .ok
    | .error (.primaryServerException message) => some (.error (.serverFailure message))
    | .error .other => none

/-! ### The user -/

structure UserEntity where
  email : String := ""
  firstName : String := ""
  lastName : String := ""
  userName : String := ""
  gender : String := ""
  birthDate : String := ""
  userType : String := ""
  lastActive : String := ""
  lastLogin : String := ""
  userImage : String := ""
  roles : List String := []
deriving DecidableEq, Repr

/-- `UserModel.fromMap` -/
def UserEntity.fromMap (data : Doc) : Option UserEntity := do
  let email ← (Doc.at data "email").textOr? "none"
  let firstName ← (Doc.at data "first_name").textOr? "none"
  let lastName ← (Doc.at data "last_name").textOr? "none"
  let userName ← (Doc.at data "username").textOr? "none"
  let gender ← (Doc.at data "gender").textOr? "none"
  let birthDate ← (Doc.at data "birth_date").textOr? "none"
  let userType ← (Doc.at data "user_type").textOr? "none"
  let lastActive ← (Doc.at data "last_active").textOr? "none"
  let lastLogin ← (Doc.at data "last_login").textOr? "none"
  let roles ← match Doc.at data "roles" with
    | .null => some []
    | .list xs => xs.mapM Value.asString?
    | _ => none
  let userImage ← (Doc.at data "user_image").textOr? "none"
  return { email, firstName, lastName, userName, gender, birthDate, userType, lastActive, lastLogin, userImage, roles }

/-- `UserModel.fromMap(response.data['message'])` -/
def UserEntity.ofResponse (data : Value) : Option UserEntity := do
  let data ← data.asMap?
  let message ← (Doc.at data "message").asMap?
  fromMap message

structure UpdateUserEntity where
  firstName : Option String := none
  lastName : Option String := none
  birthDate : Option String := none
  gender : Option String := none
  filename : Option String := none
  imageContent : Option String := none
deriving DecidableEq, Repr

/-! ### The screen -/

/-- A file of the gallery, with the name that it gets if its path is too long. -/
structure PickedImage where
  path : String
  uuid : String
  base64 : String
deriving DecidableEq, Repr

/-- The name that is sent with it. -/
def PickedImage.name (image : PickedImage) : String :=
  if (codeUnits image.path).length ≤ 140 then image.path else image.uuid ++ ".jpg"

/-- `EditUserProfileMainScreen`. Its `build` makes the controllers, the local variables and a new key for the form: when it
    runs again, the fields below it are new as well. -/
structure ProfileForm where
  userOldData : UserEntity
  firstName : String
  lastName : String
  updatedBirthDate : Option String := none
  updatedGender : Option String := none
  fileName : Option String := none
  photoIn64 : Option String := none
  selectedGender : String
  pickedImage : Option PickedImage := none
  /-- the files picked in the photo field whose bytes are being read -/
  reading : List PickedImage := []
deriving DecidableEq

namespace ProfileForm

def ofUser (userOldData : UserEntity) : ProfileForm :=
  { userOldData, firstName := userOldData.firstName, lastName := userOldData.lastName, selectedGender := userOldData.gender }

/-- Bytes that were being read come to the variables of the `build` before. -/
def rebuild (form : ProfileForm) : ProfileForm := ofUser form.userOldData

def trimText (text : String) : String := String.ofList (trim text)

def newUserData (form : ProfileForm) : UpdateUserEntity where
  firstName := some (trimText form.firstName)
  lastName := some (trimText form.lastName)
  gender := some (form.updatedGender.getD form.userOldData.gender)
  birthDate := some (form.updatedBirthDate.getD form.userOldData.birthDate)
  filename := form.fileName
  imageContent := form.photoIn64

/-- What the fields show. -/
def shown (form : ProfileForm) : UpdateUserEntity where
  firstName := some (trimText form.firstName)
  lastName := some (trimText form.lastName)
  gender := some form.selectedGender
  birthDate := some form.userOldData.birthDate
  filename := form.pickedImage.map PickedImage.name
  imageContent := form.pickedImage.map PickedImage.base64

/-- `formKey.currentState!.validate()` -/
def validate (form : ProfileForm) : Bool := form.firstName ≠ "" ∧ form.lastName ≠ ""

end ProfileForm

inductive ProfileEdit where
  | firstName (text : String)
  | lastName (text : String)
  /-- the dialog of the date field, whatever date is picked in it -/
  | birthDate
  | gender (value : String)
  /-- the gallery that the photo field on show has opened was closed, with a file or without one -/
  | image (picked : Option PickedImage)
deriving DecidableEq

namespace ProfileForm

/-- Without a file `image!.path` throws, with nothing shown. `EditUserProfileScreen` finds its user by `ModalRoute.of`, so a
    dialog over it builds it again: no field is left for the date that is picked, and `setState` throws before `onChanged`. -/
def edit (form : ProfileForm) : ProfileEdit → ProfileForm
  | .firstName text => { form with firstName := text }
  | .lastName text => { form with lastName := text }
  | .birthDate => form.rebuild
  | .gender value => { form with selectedGender := value, updatedGender := some value }
  | .image none => { form with pickedImage := none }
  | .image (some picked) =>
    { form with pickedImage := some picked, fileName := some picked.name, reading := form.reading ++ [picked] }

end ProfileForm

/-- What is open over the profile page, and how many routes the button of an error dialog pops. -/
inductive ProfilePage where
  | editUserProfile
  | loadingDialog
  | errorDialog (errorMessage : String) (pops : Nat)
deriving DecidableEq, Repr

structure ProfileSession where
  userEntity : UserEntity := {}
  /-- the request of the profile has no reply yet -/
  loadingProfile : Bool := true
  getUserDataState : RequestState := .loading
  getUserDataMessage : String := ""
  updateUserDataState : RequestState := .stable
  updateUserDataMessage : String := ""
  updates : List UpdateUserEntity := []
  pages : List ProfilePage := []
  form : Option ProfileForm := none
deriving DecidableEq

inductive ProfileEvent where
  /-- the reply to the request for the profile; `none` without a connection -/
  | profileReply (reply : Option DioReply)
  | updateProfile
  | edit (e : ProfileEdit)
  | imageRead (index : Nat)
  /-- the framework runs `build` of the edit screen again -/
  | rebuild
  | save
  | updateReply (reply : Option DioReply)
  | okay
  /-- a tap beside the dialog, or the back button of the device -/
  | dismiss
  | back
deriving DecidableEq

namespace ProfileSession

/-- `_getUserProfileData` with the listener of `UserProfileScreen`. -/
def getUserProfileData (s : ProfileSession) (reply : Option DioReply) : ProfileSession :=
  match repository UserEntity.ofResponse reply with
  | none => s
  | some (.ok userProfileData) => { s with getUserDataState := .success, userEntity := userProfileData }
  | some (.error failure) =>
    { s with
      getUserDataState := .error
      getUserDataMessage := failure.errorMessage
      pages := .errorDialog failure.errorMessage 1 :: s.pages }

/-- The listener of `EditUserProfileScreen`, on a change of the state while the screen is there. -/
def listen (s : ProfileSession) (previous : RequestState) : ProfileSession :=
  if s.updateUserDataState = previous ∨ .editUserProfile ∉ s.pages then s
  else
    match s.updateUserDataState with
    | .stable => s
    | .loading => { s with pages := .loadingDialog :: s.pages }
    | .success => { s with pages := s.pages.drop 2 }
    | .error => { s with pages := .errorDialog s.updateUserDataMessage 2 :: s.pages }

/-- `_updateUserProfileData` until the request. -/
def startUpdate (s : ProfileSession) (newUserData : UpdateUserEntity) : ProfileSession :=
  { s with updateUserDataState := .loading, updates := s.updates ++ [newUserData] }.listen s.updateUserDataState

/-- The rest of it. -/
def endUpdate (s : ProfileSession) (reply : Option DioReply) : ProfileSession :=
  match repository UserEntity.ofResponse reply with
  | none => s
  | some (.ok newUserData) =>
    { s with updateUserDataState := .success, userEntity := newUserData }.listen s.updateUserDataState
  | some (.error failure) =>
    { s with updateUserDataState := .error, updateUserDataMessage := failure.errorMessage }.listen s.updateUserDataState

/-- The edit screen, and with it its form, is there as long as its route. -/
def settled (s : ProfileSession) : ProfileSession := if .editUserProfile ∈ s.pages then s else { s with form := none }

def step (s : ProfileSession) : ProfileEvent → Option ProfileSession
  | .profileReply reply =>
    if s.loadingProfile then some ({ s with loadingProfile := false }.getUserProfileData reply) else none
  | .updateProfile =>
    if s.pages = [] ∧ s.getUserDataState = .success then
      some { s with pages := [.editUserProfile], form := some (.ofUser s.userEntity) }
    else none
  | .edit e =>
    match s.form, s.pages with
    | some form, .editUserProfile :: _ =>
      if e = .birthDate ∧ form.userOldData.birthDate = "none" then none else some { s with form := some (form.edit e) }
    | _, _ => none
  | .imageRead index =>
    s.form.bind fun form => form.reading[index]?.map fun picked =>
      { s with form := some { form with photoIn64 := some picked.base64, reading := form.reading.eraseIdx index } }
  | .rebuild => s.form.map fun form => { s with form := some form.rebuild }
  | .save =>
    match s.form, s.pages with
    | some form, .editUserProfile :: _ =>
      -- the loading dialog builds the screen again
      some (if form.validate then { s with form := some form.rebuild }.startUpdate form.newUserData else s)
    | _, _ => none
  | .updateReply reply =>
    match s.updates with
    | [] => none
    | _ :: updates => some ({ s with updates }.endUpdate reply).settled
  | .okay =>
    match s.pages with
    | .errorDialog _ pops :: _ => some { s with pages := s.pages.drop pops }.settled
    | _ => none
  | .dismiss =>
    match s.pages with
    | .errorDialog _ _ :: pages => some { s with pages }
    | _ => none
  | .back =>
    match s.pages with
    | .editUserProfile :: pages => some { s with pages }.settled
    | _ => none

end ProfileSession

end NextApp
