/-!
# Permission groups

Permissions that are granted together.
-/

set_option autoImplicit false

namespace AudioHost

/-- A set of permissions with a common purpose. -/
inductive PermissionGroup where
  | phone
  | contacts
  | location
  | calendar
  | sms
  | microphone
  | camera
  | sensors
  | storage
  | settings
  | installer
  | verifier
  deriving DecidableEq

namespace PermissionGroup

/-- Every group. -/
def all : List PermissionGroup :=
  [phone, contacts, location, calendar, sms, microphone, camera, sensors, storage, settings,
    installer, verifier]

/-- The permissions of a group, in order. -/
def permissions : PermissionGroup → List String
  | phone =>
      ["android.permission.READ_PHONE_STATE",
        "android.permission.CALL_PHONE",
        "android.permission.READ_CALL_LOG",
        "android.permission.WRITE_CALL_LOG",
        "com.android.voicemail.permission.ADD_VOICEMAIL",
        "android.permission.USE_SIP",
        "android.permission.PROCESS_OUTGOING_CALLS"]
  | contacts =>
      ["android.permission.READ_CONTACTS",
        "android.permission.WRITE_CONTACTS"]
  | location =>
      ["android.permission.ACCESS_FINE_LOCATION",
        "android.permission.ACCESS_COARSE_LOCATION"]
  | calendar =>
      ["android.permission.READ_CALENDAR",
        "android.permission.WRITE_CALENDAR"]
  | sms =>
      ["android.permission.SEND_SMS",
        "android.permission.RECEIVE_SMS",
        "android.permission.READ_SMS",
        "android.permission.RECEIVE_WAP_PUSH",
        "android.permission.RECEIVE_MMS",
        "android.permission.READ_CELL_BROADCASTS"]
  | microphone => ["android.permission.RECORD_AUDIO"]
  | camera => ["android.permission.CAMERA"]
  | sensors => ["android.permission.BODY_SENSORS"]
  | storage =>
      ["android.permission.READ_EXTERNAL_STORAGE",
        "android.permission.WRITE_EXTERNAL_STORAGE"]
  | settings => ["android.permission.WRITE_SETTINGS"]
  | installer =>
      ["android.permission.GRANT_REVOKE_PERMISSIONS",
        "android.permission.INTERACT_ACROSS_USERS_FULL",
        "android.permission.CLEAR_APP_USER_DATA",
        "android.permission.KILL_UID"]
  | verifier => ["android.permission.GRANT_REVOKE_PERMISSIONS"]

/-- Whether a permission belongs to a group. -/
def contains (group : PermissionGroup) (permission : String) : Bool :=
  group.permissions.contains permission

/-- The groups that a permission belongs to. -/
def containing (permission : String) : List PermissionGroup :=
  all.filter fun group => group.contains permission

end PermissionGroup

end AudioHost
