import GokeWebcam.Lib.Shell
import GokeWebcam.Server.WifiConfigure

/-!
# Joining the network

`wifi_connect` of `server/aliyun/aliyun.c` joins the network of the last provisioning by commands of
`wpa_cli`, which it gives to a shell. The name and the password are pasted between single quotes.

* `wifiConnect`: the commands; `Invocation`: what the shell is to run.
* `commandsExact_iff`: the shell reads them so iff the name and the password have no single quote.
* `name_interpreted`: a name that ends the quoting and the command.
-/

namespace GokeWebcam.Server.Wifi

open Lib Shell Common

variable (s : Session)

/-! ### The commands -/

/-- Source: `snprintf(cmd, sizeof(cmd), ...)` -/
def printCmd (text : List Byte) : List Byte := text.take 255

def addNetwork : List Byte := codes "/usr/sbin/wpa_cli -i wlan0 add_network"

/-- The network's name or password is set. -/
def setNetwork (key : String) (value : List Byte) : List Byte :=
  codes "/usr/sbin/wpa_cli set_network 0 " ++ codes key ++ codes " " ++
    quote :: (doubleQuote :: (value ++ [doubleQuote]) ++ [quote])

def setScanSsid : List Byte := codes "/usr/sbin/wpa_cli set_network 0 scan_ssid 1"

def setPriority : List Byte := codes "/usr/sbin/wpa_cli set_network 0 priority 1"

def enableNetwork : List Byte := codes "/usr/sbin/wpa_cli -i wlan0 enable_network 0"

/-- The commands that are given to `system`, in their order.
Source: `server/aliyun/aliyun.c` `wifi_connect` -/
def wifiConnect (needBind : Bool) : List (List Byte) :=
  if !needBind then []
  else [addNetwork, setNetwork "ssid" s.ssid.text, setNetwork "psk" s.passwd.text, setScanSsid,
    setPriority, enableNetwork].map printCmd

/-! ### What the shell is to run -/

/-- The words of a call of `wpa_cli`. -/
def wpaCli (arguments : List (List Byte)) : List (List Byte) := codes "/usr/sbin/wpa_cli" :: arguments

/-- The value is between double quotes, for `wpa_cli`. -/
def setArguments (key : String) (value : List Byte) : List (List Byte) :=
  [codes "set_network", codes "0", codes key, doubleQuote :: (value ++ [doubleQuote])]

/-- One call of `wpa_cli` a command. -/
def invocations (needBind : Bool) : List (List (List Byte)) :=
  if !needBind then []
  else [wpaCli [codes "-i", codes "wlan0", codes "add_network"],
    wpaCli (setArguments "ssid" s.ssid.text), wpaCli (setArguments "psk" s.passwd.text),
    wpaCli [codes "set_network", codes "0", codes "scan_ssid", codes "1"],
    wpaCli [codes "set_network", codes "0", codes "priority", codes "1"],
    wpaCli [codes "-i", codes "wlan0", codes "enable_network", codes "0"]]

/-- The shell reads each command as one call, with the name and the password as they stand. -/
def CommandsExact (needBind : Bool) : Prop :=
  (wifiConnect s needBind).map words = (invocations s needBind).map some

instance (needBind : Bool) : Decidable (CommandsExact s needBind) :=
  inferInstanceAs (Decidable (_ = _))

/-! ### How the shell reads them -/

variable {s} {needBind : Bool} {key : String} {value : List Byte}

/-- A command that sets the name or the password, which fits the buffer of the command. -/
theorem words_setNetwork_iff (hkey : key.length ≤ 4) (hvalue : value.length ≤ 64)
    (hbefore : (codes "/usr/sbin/wpa_cli set_network 0 " ++ codes key ++ codes " ").foldlM read {} =
      some { words := wpaCli [codes "set_network", codes "0", codes key] }) :
    words (printCmd (setNetwork key value)) = some (wpaCli (setArguments key value)) ↔
      quote ∉ value := by
  have hlength : (setNetwork key value).length ≤ 255 := by
    simp only [setNetwork, codes, List.length_append, List.length_map, List.length_cons,
      List.length_nil, String.length_toList]
    have hprefix : "/usr/sbin/wpa_cli set_network 0 ".length = 32 := rfl
    have hblank : " ".length = 1 := rfl
    omega
  have hmem : quote ∈ doubleQuote :: (value ++ [doubleQuote]) ↔ quote ∈ value := by
    have hne : quote ≠ doubleQuote := by decide
    simp [hne]
  rw [printCmd, List.take_of_length_le hlength, setNetwork, ← hmem]
  exact words_quoted_iff hbefore

/-- Every other command is read as it is meant. -/
theorem words_wifiConnect : (wifiConnect s true).map words =
    [some (wpaCli [codes "-i", codes "wlan0", codes "add_network"]),
      words (printCmd (setNetwork "ssid" s.ssid.text)), words (printCmd (setNetwork "psk" s.passwd.text)),
      some (wpaCli [codes "set_network", codes "0", codes "scan_ssid", codes "1"]),
      some (wpaCli [codes "set_network", codes "0", codes "priority", codes "1"]),
      some (wpaCli [codes "-i", codes "wlan0", codes "enable_network", codes "0"])] := by
  have hadd : words (printCmd addNetwork) =
      some (wpaCli [codes "-i", codes "wlan0", codes "add_network"]) := by decide
  have hscan : words (printCmd setScanSsid) =
      some (wpaCli [codes "set_network", codes "0", codes "scan_ssid", codes "1"]) := by
    decide
  have hpriority : words (printCmd setPriority) =
      some (wpaCli [codes "set_network", codes "0", codes "priority", codes "1"]) := by
    decide
  have henable : words (printCmd enableNetwork) =
      some (wpaCli [codes "-i", codes "wlan0", codes "enable_network", codes "0"]) := by
    decide
  simp [wifiConnect, hadd, hscan, hpriority, henable]

/-- The commands are what they are meant to be iff neither the name nor the password has a single
quote. -/
theorem commandsExact_iff (s : Session) (needBind : Bool) : CommandsExact s needBind ↔
    (needBind = true → quote ∉ s.ssid.text ∧ quote ∉ s.passwd.text) := by
  rcases needBind with _ | _
  · simp [CommandsExact, wifiConnect, invocations]
  · have hssid : words (printCmd (setNetwork "ssid" s.ssid.text)) =
        some (wpaCli (setArguments "ssid" s.ssid.text)) ↔ quote ∉ s.ssid.text :=
      words_setNetwork_iff (by decide) ((length_text s.ssid).trans (by decide)) (by decide)
    have hpasswd : words (printCmd (setNetwork "psk" s.passwd.text)) =
        some (wpaCli (setArguments "psk" s.passwd.text)) ↔ quote ∉ s.passwd.text :=
      words_setNetwork_iff (by decide) (length_text s.passwd) (by decide)
    rw [CommandsExact, words_wifiConnect, ← hssid, ← hpasswd]
    simp [invocations]

/-- A name that ends the quoting and the command. -/
def rebootName : CStr := ⟨codes "a" ++ quote :: (codes ";reboot;" ++ [quote]), by decide⟩

/-- The first quote of the name ends the quoting; what follows is another command. -/
theorem name_interpreted :
    ¬ CommandsExact { freshSession with ssid := (TextArray.zeros 32).strncpy rebootName } true := by
  decide

end GokeWebcam.Server.Wifi
