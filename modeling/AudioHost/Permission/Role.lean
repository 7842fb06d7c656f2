import AudioHost.Permission.Group

/-!
# Roles

Some packages are given permissions because of what they do on the device: they
handle a well-known intent, or the system lists them as its provider of a service.
-/

set_option autoImplicit false

namespace AudioHost

/-- An intent whose handlers are given permissions. -/
inductive Intent where
  | installer
  | verifier
  | home
  | dial
  | camera
  | messaging
  | calendar
  | contacts
  | maps
  | email
  | browser
  deriving DecidableEq

namespace Intent

/-- The action of the intent. -/
def action : Intent → String
  | installer => "android.intent.action.INSTALL_PACKAGE"
  | verifier => "android.intent.action.PACKAGE_NEEDS_VERIFICATION"
  | dial => "android.intent.action.DIAL"
  | camera => "android.media.action.IMAGE_CAPTURE"
  | home | messaging | calendar | contacts | maps | email | browser =>
      "android.intent.action.MAIN"

/-- The category by which handlers are selected, where there is one. -/
def category? : Intent → Option String
  | installer => some "android.intent.category.DEFAULT"
  | home => some "android.intent.category.HOME"
  | messaging => some "android.intent.category.APP_MESSAGING"
  | calendar => some "android.intent.category.APP_CALENDAR"
  | contacts => some "android.intent.category.APP_CONTACTS"
  | maps => some "android.intent.category.APP_MAPS"
  | email => some "android.intent.category.APP_EMAIL"
  | browser => some "android.intent.category.APP_BROWSER"
  | verifier | dial | camera => none

/-- The privileged handlers, each with the group that it is given at installation. -/
def privilegedGrants : List (Intent × PermissionGroup) :=
  [(installer, .installer), (verifier, .verifier)]

/-- The default handlers, each with the groups that it is given at run time. -/
def defaultGrants : List (Intent × List PermissionGroup) :=
  [(home, [.phone, .contacts, .settings]),
    (dial, [.phone, .contacts, .sms, .microphone]),
    (camera, [.camera, .microphone]),
    (messaging, [.phone, .contacts, .sms]),
    (calendar, [.calendar, .contacts]),
    (contacts, [.contacts, .phone]),
    (maps, [.location]),
    (email, [.contacts]),
    (browser, [.location])]

end Intent

/-- A service for which the system lists the packages that provide it. -/
inductive Provider where
  | inputMethod
  | voiceInteraction
  | location
  deriving DecidableEq

namespace Provider

/-- Every service, in the order of the grants. -/
def all : List Provider := [inputMethod, voiceInteraction, location]

/-- The groups that a providing package is given at run time. -/
def groups : Provider → List PermissionGroup
  | inputMethod => [.contacts]
  | voiceInteraction => [.contacts, .calendar, .microphone, .phone, .sms, .location]
  | location =>
      [.contacts, .calendar, .microphone, .phone, .sms, .location, .camera, .sensors, .storage]

end Provider

end AudioHost
