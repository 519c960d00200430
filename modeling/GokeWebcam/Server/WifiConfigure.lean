import GokeWebcam.Common.JsonText
import GokeWebcam.Lib.Attempt

/-!
# Provisioning

A QR code, or the file kept of the last one, is a JSON document with the name and the password of the
network, the BSSID and the token. `get_qrcode_callback` and `wifi_configure` of `server/aliyun/aliyun.c` read
the four fields in the same way, printing each item and taking the quotes off again.

* `wifiConfigure`, `getQrcodeCallback`: the functions; a use or a second release of what has been released has
  no result but the state in which it happens.
* `stored_iff`: the name and the password are those of the document iff what is not plain in them is
  backslashes up to the end of the buffer; `quote_escaped`: a name with a quote.
* `configureSound_iff`: `wifi_configure` releases everything once, and accepts what the callback accepts,
  iff it is not the BSSID or the token alone that is missing; `bssid_missing`: it is.
-/

namespace GokeWebcam.Server.Wifi

open Lib Common

/-! ### The buffers -/

/-- An array of `n + 1` bytes that ends with a zero. -/
structure TextArray (n : ℕ) where
  bytes : List Byte
  length_eq : bytes.length = n + 1
  last_eq : bytes[n]? = some 0#8

namespace TextArray

variable {n k : ℕ} {t : TextArray n} {src written : List Byte}

/-- The first `k ≤ n` bytes are replaced. -/
theorem length_write (t : TextArray n) (hk : written.length ≤ n) :
    (written ++ t.bytes.drop written.length).length = n + 1 := by
  rw [List.length_append, List.length_drop, t.length_eq]
  omega

theorem last_write (t : TextArray n) (hk : written.length ≤ n) :
    (written ++ t.bytes.drop written.length)[n]? = some 0#8 := by
  rw [List.getElem?_append_right hk, List.getElem?_drop, Nat.add_sub_cancel' hk]
  exact t.last_eq

def write (t : TextArray n) (written : List Byte) (hk : written.length ≤ n) : TextArray n where
  bytes := written ++ t.bytes.drop written.length
  length_eq := t.length_write hk
  last_eq := t.last_write hk

theorem length_zeros (n : ℕ) : (List.replicate (n + 1) 0#8).length = n + 1 := List.length_replicate

theorem last_zeros (n : ℕ) : (List.replicate (n + 1) 0#8)[n]? = some 0#8 := by simp

/-- Source: `memset(ssid, 0, sizeof(ssid))` -/
def zeros (n : ℕ) : TextArray n where
  bytes := List.replicate (n + 1) 0#8
  length_eq := length_zeros n
  last_eq := last_zeros n

theorem length_padded (src : List Byte) (n : ℕ) :
    ((src ++ List.replicate n 0#8).take n).length ≤ n := List.length_take_le ..

/-- Source: `strncpy(ssid, json_item_str, sizeof(ssid) - 1)` -/
def strncpy (t : TextArray n) (src : CStr) : TextArray n :=
  t.write ((src.bytes ++ List.replicate n 0#8).take n) (length_padded src.bytes n)

/-- The string in the array. -/
def text (t : TextArray n) : List Byte := t.bytes.takeWhile (· ≠ 0#8)

theorem drop_bytes (t : TextArray n) : t.bytes.drop n = [0#8] := by
  have hlt : n < t.bytes.length := by
    rw [t.length_eq]
    exact Nat.lt_succ_self n
  rw [List.drop_eq_getElem_cons hlt, List.drop_of_length_le (by rw [t.length_eq])]
  have hlast := t.last_eq
  rw [List.getElem?_eq_getElem hlt, Option.some.injEq] at hlast
  rw [hlast]

/-- As much of the string as there is room for. -/
theorem text_strncpy {src : CStr} : (t.strncpy src).text = src.bytes.take n := by
  have hlength : ((src.bytes ++ List.replicate n 0#8).take n).length = n := by simp
  have hwritten : (t.strncpy src).bytes = (src.bytes ++ List.replicate n 0#8).take n ++
      t.bytes.drop ((src.bytes ++ List.replicate n 0#8).take n).length := rfl
  have hbytes : (t.strncpy src).bytes =
      src.bytes.take n ++ List.replicate (n - src.bytes.length + 1) 0#8 := by
    rw [hwritten, hlength, drop_bytes, List.take_append, List.take_replicate, List.append_assoc,
      Nat.min_eq_left (Nat.sub_le _ _), List.replicate_succ']
  rw [text, hbytes, List.takeWhile_append_of_pos]
  · simp [List.replicate_succ]
  · intro b hb
    simpa using src.noNul b (List.mem_of_mem_take hb)

end TextArray

/-! ### Hexadecimal fields -/

/-- Source: `common/misc.c` `misc_str_hex_2_hex` -/
def nibble (c : Byte) : Option Byte :=
  if chr '0' ≤ c ∧ c ≤ chr '9' then some (c - chr '0')
  else if chr 'a' ≤ c ∧ c ≤ chr 'f' then some (c - chr 'a' + 10#8)
  else if chr 'A' ≤ c ∧ c ≤ chr 'F' then some (c - chr 'A' + 10#8)
  else none

/-- The first digit replaces what was left of the byte before, the second is added.
Source: `common/misc.c` `misc_str_hex_2_hex` -/
def hexByte (temp hi lo : Byte) : Byte :=
  let temp := ((nibble hi).map fun (v : Byte) => v <<< 4).getD temp
  temp + (nibble lo).getD 0#8

/-- The bytes written for the pairs of characters.
Source: `common/misc.c` `misc_str_hex_2_hex` -/
def strHex2Hex (temp : Byte) : List Byte → List Byte
  | hi :: lo :: src => hexByte temp hi lo :: strHex2Hex (hexByte temp hi lo) src
  | _ => []

theorem length_strHex2Hex (temp : Byte) (src : List Byte) : (strHex2Hex temp src).length ≤ src.length := by
  fun_induction strHex2Hex temp src with
  | case1 temp hi lo src ih =>
    rw [List.length_cons, List.length_cons, List.length_cons]
    omega
  | case2 => exact Nat.zero_le _

/-- The string ends in the array. -/
theorem length_text {n : ℕ} (t : TextArray n) : t.text.length ≤ n := by
  have hsplit : t.bytes = t.bytes.take n ++ [0#8] := by
    rw [← t.drop_bytes, List.take_append_drop]
  have htake : (t.bytes.take n).length ≤ n := List.length_take_le ..
  rw [TextArray.text, hsplit, List.takeWhile_append]
  split_ifs with hall
  · simp
  · exact (List.takeWhile_sublist _).length_le.trans htake

theorem length_hexText {n : ℕ} (t : TextArray n) : (strHex2Hex 0#8 t.text).length ≤ n :=
  (length_strHex2Hex _ _).trans (length_text t)

/-- The characters of the array become bytes, in place.
Source: `misc_str_hex_2_hex((unsigned char *) bssid, bssid, strlen(bssid))` -/
def TextArray.hex2Hex {n : ℕ} (t : TextArray n) : TextArray n :=
  t.write (strHex2Hex 0#8 t.text) (length_hexText t)

/-! ### The functions -/

/-- Source: `server/aliyun/aliyun.h` `wifi_status_e` -/
inductive WifiStatus
  | qrcode | sta
  deriving DecidableEq, Repr

/-- What is asked of the other servers: another scan, a connection. -/
inductive Request
  | scanQr | connect
  deriving DecidableEq, Repr

/-- What becomes of something allocated. -/
inductive Life
  | absent | live | released
  deriving DecidableEq, Repr

/-- The static variables, and what the calls in progress have allocated: the document of the callback, the
document and the text of `wifi_configure`. -/
structure Session where
  ssid : TextArray 32
  passwd : TextArray 64
  bssid : TextArray 12
  token : TextArray 6
  wifiSt : WifiStatus
  requests : List Request
  qrRoot : Life
  root : Life
  jsonStr : Life
  ret : ℤ

/-- The environment of a call: whether there is memory to print the item of a name, and what an item prints as
that is no string. -/
structure Printer where
  memory : Char → Bool
  other : CJson → CStr

/-- The printed item of the name; the functions do the same where there is none as where it cannot be
printed.
Source: `cJSON_GetObjectItem`, `cJSON_Print` -/
def itemText (env : Printer) (root : CJson) (name : Char) : Option CStr :=
  (root.getObjectItem [name]).bind fun item => if env.memory name then some (item.print env.other) else none

namespace Session

variable (s : Session)

/-- Source: `json_del_yinhao`, `strncpy` -/
def storeSsid (str : CStr) : Session := { s with ssid := s.ssid.strncpy (jsonDelYinhao str) }

def storePasswd (str : CStr) : Session := { s with passwd := s.passwd.strncpy (jsonDelYinhao str) }

/-- Source: `json_del_yinhao`, `strncpy`, `misc_str_hex_2_hex` -/
def storeBssid (str : CStr) : Session := { s with bssid := (s.bssid.strncpy (jsonDelYinhao str)).hex2Hex }

def storeToken (str : CStr) : Session := { s with token := (s.token.strncpy (jsonDelYinhao str)).hex2Hex }

/-- Source: `send_qr_scan` -/
def sendQrScan : Session := { s with requests := s.requests ++ [.scanQr] }

def returns (ret : ℤ) : Session := { s with ret := ret }

/-- The document of `wifi_configure` is used. -/
def useRoot : Except Session Session := if s.root = .live then .ok s else .error s

/-- Source: `server/aliyun/aliyun.c` `wifi_configure`, `cJSON_Delete(root)` -/
def deleteRoot : Except Session Session :=
  if s.root = .live then .ok { s with root := .released } else .error s

/-- Source: `server/aliyun/aliyun.c` `wifi_configure`, `free(json_str)` -/
def freeText : Except Session Session :=
  if s.jsonStr = .live then .ok { s with jsonStr := .released } else .error s

/-- Source: `server/aliyun/aliyun.c` `wifi_configure` -/
def release : Except Session Session := s.deleteRoot >>= freeText

/-- Source: `server/aliyun/aliyun.c` `get_qrcode_callback`, `cJSON_Delete(root)` -/
def deleteQrRoot : Except Session Session :=
  if s.qrRoot = .live then .ok { s with qrRoot := .released } else .error s

end Session

open Session

/-- The items `b` and `t` of `wifi_configure`: where one is missing everything is released, and the function
goes on.
Source: `server/aliyun/aliyun.c` `wifi_configure` -/
def optionalItem (env : Printer) (root : CJson) (name : Char) (store : Session → CStr → Session)
    (s : Session) : Except Session Session :=
  s.useRoot >>= fun s =>
    match itemText env root name with
    | none => s.release
    | some str => .ok (store s str)

/-- `doc` is what the text of the file is parsed as. The file is open, and there is memory for its text; else
the function returns at once.
Source: `server/aliyun/aliyun.c` `wifi_configure` -/
def wifiConfigure (env : Printer) (doc : Option CJson) (s : Session) : Except Session Session :=
  let s := { s with root := .absent, jsonStr := .live }
  match doc with
  | none => s.freeText.map fun s => s.returns (-1)
  | some root =>
    let s := { s with root := .live }
    match itemText env root 's' with
    | none => s.release.map fun s => s.returns (-1)
    | some str =>
      let s := s.storeSsid str
      match itemText env root 'p' with
      | none => s.release.map fun s => s.returns (-1)
      | some str =>
        optionalItem env root 'b' storeBssid (s.storePasswd str) >>= fun s =>
          optionalItem env root 't' storeToken s >>= fun s => s.release.map fun s => s.returns 0

/-- The item is missing.
Source: `server/aliyun/aliyun.c` `get_qrcode_callback` -/
def refuseQr (s : Session) : Except Session Session :=
  s.deleteQrRoot.map fun s => s.sendQrScan.returns (-1)

/-- `result` is what the message carries, if it carries anything: the text that is parsed, and written to the
temporary file that `wifi_configure` reads.
Source: `server/aliyun/aliyun.c` `get_qrcode_callback` -/
def getQrcodeCallback (env : Printer) (result : Option (Option CJson)) (s : Session) :
    Except Session Session :=
  match result with
  | none => .ok (s.sendQrScan.returns 1)
  | some doc =>
    let s := { s with ssid := .zeros 32, passwd := .zeros 64, bssid := .zeros 12, token := .zeros 6 }
    match doc with
    | none => .ok (s.sendQrScan.returns (-1))
    | some root =>
      let s := { s with qrRoot := .live }
      match itemText env root 's' with
      | none => refuseQr s
      | some str =>
        let s := s.storeSsid str
        match itemText env root 'p' with
        | none => refuseQr s
        | some str =>
          let s := s.storePasswd str
          match itemText env root 'b' with
          | none => refuseQr s
          | some str =>
            let s := s.storeBssid str
            match itemText env root 't' with
            | none => refuseQr s
            | some str =>
              wifiConfigure env doc (s.storeToken str) >>= fun s =>
                let s := if s.ret = 0 then
                    { s with wifiSt := .sta, requests := s.requests ++ [.connect] }
                  else { s with wifiSt := .qrcode }.sendQrScan
                s.deleteQrRoot.map fun s => s.returns 0

/-! ### What is released -/

/-- The document is parsed, and the four items are there. -/
def AllPresent (env : Printer) (doc : Option CJson) : Prop :=
  ∃ root, doc = some root ∧ ∀ name ∈ ['s', 'p', 'b', 't'], (itemText env root name).isSome

/-- The callback takes the document. -/
def Accepts (env : Printer) (doc : Option CJson) (s : Session) : Prop :=
  ∃ s', getQrcodeCallback env (some doc) s = .ok s' ∧ s'.ret = 0

/-- `wifi_configure` uses and releases nothing that has been released, leaves nothing behind, and returns 0
iff the items are there, so iff the callback takes the document. -/
def ConfigureSound (env : Printer) (doc : Option CJson) (s : Session) : Prop :=
  ∃ s', wifiConfigure env doc s = .ok s' ∧ s'.jsonStr = .released ∧ s'.root ≠ .live ∧
    (s'.root = .released ↔ doc.isSome) ∧ (s'.ret = 0 ↔ AllPresent env doc) ∧
    (s'.ret = 0 ↔ Accepts env doc s)

/-- In a document with a name and a password there are a BSSID and a token. -/
def ConfigureHolds (env : Printer) (doc : Option CJson) : Prop :=
  ∀ root, doc = some root → (itemText env root 's').isSome → (itemText env root 'p').isSome →
    (itemText env root 'b').isSome ∧ (itemText env root 't').isSome

variable {env : Printer} {doc : Option CJson} {root : CJson} {s s' : Session} {name : Char}

theorem allPresent_some : AllPresent env (some root) ↔ (itemText env root 's').isSome ∧
    (itemText env root 'p').isSome ∧ (itemText env root 'b').isSome ∧ (itemText env root 't').isSome := by
  simp [AllPresent]

/-- A document without a name or a password is refused. -/
theorem wifiConfigure_refused (h : ¬ ((itemText env root 's').isSome ∧ (itemText env root 'p').isSome)) :
    ∃ s', wifiConfigure env (some root) s = .ok s' ∧ s'.jsonStr = .released ∧ s'.root = .released ∧
      s'.ret = -1 := by
  rcases hs : itemText env root 's' with _ | ssid
  · simp only [wifiConfigure, hs]
    exact ⟨_, rfl, rfl, rfl, rfl⟩
  rcases hp : itemText env root 'p' with _ | passwd
  · simp only [wifiConfigure, hs, hp]
    exact ⟨_, rfl, rfl, rfl, rfl⟩
  · exact absurd ⟨by rw [hs]; rfl, by rw [hp]; rfl⟩ h

/-- A complete document is taken. -/
theorem wifiConfigure_complete (h : AllPresent env (some root)) :
    ∃ s', wifiConfigure env (some root) s = .ok s' ∧ s'.jsonStr = .released ∧ s'.root = .released ∧
      s'.ret = 0 ∧ s'.qrRoot = s.qrRoot := by
  obtain ⟨hs, hp, hb, ht⟩ := allPresent_some.mp h
  obtain ⟨ssid, hs⟩ := Option.isSome_iff_exists.mp hs
  obtain ⟨passwd, hp⟩ := Option.isSome_iff_exists.mp hp
  obtain ⟨bssid, hb⟩ := Option.isSome_iff_exists.mp hb
  obtain ⟨token, ht⟩ := Option.isSome_iff_exists.mp ht
  simp only [wifiConfigure, hs, hp, optionalItem, hb, ht]
  exact ⟨_, rfl, rfl, rfl, rfl, rfl⟩

/-- Where the BSSID or the token is missing, something released is used or released again. -/
theorem wifiConfigure_unsound (hs : (itemText env root 's').isSome) (hp : (itemText env root 'p').isSome)
    (h : ¬ ((itemText env root 'b').isSome ∧ (itemText env root 't').isSome)) :
    ∃ s', wifiConfigure env (some root) s = .error s' := by
  obtain ⟨ssid, hs⟩ := Option.isSome_iff_exists.mp hs
  obtain ⟨passwd, hp⟩ := Option.isSome_iff_exists.mp hp
  rcases hb : itemText env root 'b' with _ | bssid
  · simp only [wifiConfigure, hs, hp, optionalItem, hb]
    exact ⟨_, rfl⟩
  rcases ht : itemText env root 't' with _ | token
  · simp only [wifiConfigure, hs, hp, optionalItem, hb, ht]
    exact ⟨_, rfl⟩
  · exact absurd ⟨by rw [hb]; rfl, by rw [ht]; rfl⟩ h

theorem accepts_of_allPresent (h : AllPresent env (some root)) : Accepts env (some root) s := by
  obtain ⟨hs, hp, hb, ht⟩ := allPresent_some.mp h
  obtain ⟨ssid, hs⟩ := Option.isSome_iff_exists.mp hs
  obtain ⟨passwd, hp⟩ := Option.isSome_iff_exists.mp hp
  obtain ⟨bssid, hb⟩ := Option.isSome_iff_exists.mp hb
  obtain ⟨token, ht⟩ := Option.isSome_iff_exists.mp ht
  simp only [Accepts, getQrcodeCallback, hs, hp, hb, ht]
  generalize hs₁ : Session.storeToken _ token = s₁
  have hlive : s₁.qrRoot = .live := by rw [← hs₁]; rfl
  obtain ⟨t, hconfigure, -, -, hret, hroot⟩ := wifiConfigure_complete (s := s₁) h
  have hbind : ∀ f : Session → Except Session Session, (Except.ok t >>= f) = f t := fun f => rfl
  rw [hconfigure, hbind, if_pos hret, deleteQrRoot, if_pos (hroot.trans hlive)]
  exact ⟨_, rfl, rfl⟩

/-- The callback refuses a document in which an item is missing. -/
theorem getQrcodeCallback_refused (h : ¬ AllPresent env (some root)) :
    ∃ s', getQrcodeCallback env (some (some root)) s = .ok s' ∧ s'.ret = -1 := by
  rw [allPresent_some] at h
  rcases hs : itemText env root 's' with _ | ssid
  · simp only [getQrcodeCallback, hs]
    exact ⟨_, rfl, rfl⟩
  rcases hp : itemText env root 'p' with _ | passwd
  · simp only [getQrcodeCallback, hs, hp]
    exact ⟨_, rfl, rfl⟩
  rcases hb : itemText env root 'b' with _ | bssid
  · simp only [getQrcodeCallback, hs, hp, hb]
    exact ⟨_, rfl, rfl⟩
  rcases ht : itemText env root 't' with _ | token
  · simp only [getQrcodeCallback, hs, hp, hb, ht]
    exact ⟨_, rfl, rfl⟩
  · simp [hs, hp, hb, ht] at h

/-- The callback takes the complete documents. -/
theorem accepts_iff : Accepts env doc s ↔ AllPresent env doc := by
  rcases doc with _ | root
  · refine iff_of_false ?_ fun ⟨_, h, _⟩ => by cases h
    rintro ⟨s', h, hret⟩
    cases h
    cases hret
  by_cases hall : AllPresent env (some root)
  · exact iff_of_true (accepts_of_allPresent hall) hall
  · refine iff_of_false ?_ hall
    rintro ⟨s', h, hret⟩
    obtain ⟨t, ht, htret⟩ := getQrcodeCallback_refused (s := s) hall
    rw [ht] at h
    cases h
    rw [htret] at hret
    cases hret

/-- A session before anything has been done. -/
def freshSession : Session where
  ssid := .zeros 32
  passwd := .zeros 64
  bssid := .zeros 12
  token := .zeros 6
  wifiSt := .qrcode
  requests := []
  qrRoot := .absent
  root := .absent
  jsonStr := .absent
  ret := 0

/-- There is always memory. -/
def plenty (other : CJson → CStr) : Printer := ⟨fun _ => true, other⟩

/-- The name and the password that are stored, by either function and whatever else the document holds, are
the first bytes of those in the document. -/
def StoredExact (other : CJson → CStr) (root : CJson) (s : Session) : Prop :=
  ∀ v w, root.getObjectItem ['s'] = some (.string v) → root.getObjectItem ['p'] = some (.string w) →
    Keeps (fun t => t.ssid.text = v.bytes.take 32 ∧ t.passwd.text = w.bytes.take 64)
        (wifiConfigure (plenty other) (some root) s) ∧
      Keeps (fun t => t.ssid.text = v.bytes.take 32 ∧ t.passwd.text = w.bytes.take 64)
        (getQrcodeCallback (plenty other) (some (some root)) s)

/-- Both fit into their buffers. -/
def StoredFits (root : CJson) : Prop :=
  ∀ v w, root.getObjectItem ['s'] = some (.string v) → root.getObjectItem ['p'] = some (.string w) →
    Fits 32 v.bytes ∧ Fits 64 w.bytes

/-- What the two buffers hold. -/
def Stored (name password : List Byte) (s : Session) : Prop := s.ssid.text = name ∧ s.passwd.text = password

variable {x y : List Byte} {v w : CStr} {other : CJson → CStr}

theorem keeps_release (h : Stored x y s) : Keeps (Stored x y) s.release := by
  refine Keeps.bind ?_ fun t ht => ?_
  · unfold deleteRoot
    split_ifs
    · exact h
    · exact h
  · unfold freeText
    split_ifs
    · exact ht
    · exact ht

theorem keeps_optionalItem {store : Session → CStr → Session}
    (hstore : ∀ t str, Stored x y t → Stored x y (store t str)) (h : Stored x y s) :
    Keeps (Stored x y) (optionalItem env root name store s) := by
  refine Keeps.bind ?_ fun t ht => ?_
  · unfold useRoot
    split_ifs
    · exact h
    · exact h
  · rcases itemText env root name with _ | str
    · exact keeps_release ht
    · exact hstore t str ht

theorem keeps_deleteQrRoot (h : Stored x y s) : Keeps (Stored x y) s.deleteQrRoot := by
  unfold deleteQrRoot
  split_ifs
  · exact h
  · exact h

theorem keeps_refuseQr (h : Stored x y s) : Keeps (Stored x y) (refuseQr s) :=
  (keeps_deleteQrRoot h).map fun _ ht => ht

theorem stored_storePasswd : Stored ((escape v.bytes).take 32) ((escape w.bytes).take 64)
    ((s.storeSsid (printString v)).storePasswd (printString w)) := by
  constructor
  · rw [← jsonDelYinhao_printString]
    exact TextArray.text_strncpy
  · rw [← jsonDelYinhao_printString]
    exact TextArray.text_strncpy

/-- Behind the name and the password nothing touches them. -/
theorem keeps_wifiConfigure (hs : itemText env root 's' = some (printString v))
    (hp : itemText env root 'p' = some (printString w)) :
    Keeps (Stored ((escape v.bytes).take 32) ((escape w.bytes).take 64))
      (wifiConfigure env (some root) s) := by
  simp only [wifiConfigure, hs, hp]
  refine Keeps.bind (keeps_optionalItem (fun _ _ ht => ht) stored_storePasswd) fun t ht => ?_
  refine Keeps.bind (keeps_optionalItem (fun _ _ ht => ht) ht) fun t ht => ?_
  exact (keeps_release ht).map fun _ ht => ht

theorem keeps_getQrcodeCallback (hs : itemText env root 's' = some (printString v))
    (hp : itemText env root 'p' = some (printString w)) :
    Keeps (Stored ((escape v.bytes).take 32) ((escape w.bytes).take 64))
      (getQrcodeCallback env (some (some root)) s) := by
  simp only [getQrcodeCallback, hs, hp]
  rcases itemText env root 'b' with _ | bssid
  · exact keeps_refuseQr stored_storePasswd
  rcases itemText env root 't' with _ | token
  · exact keeps_refuseQr stored_storePasswd
  refine Keeps.bind (keeps_wifiConfigure hs hp) fun t ht => ?_
  refine Keeps.map (keeps_deleteQrRoot ?_) fun _ ht => ht
  split_ifs
  · exact ht
  · exact ht

theorem itemText_string (other : CJson → CStr) (h : root.getObjectItem [name] = some (.string v)) :
    itemText (plenty other) root name = some (printString v) := by
  rw [itemText, h]
  rfl

/-- The name and the password are stored as they are in the document iff they fit. -/
theorem stored_iff (other : CJson → CStr) (root : CJson) (s : Session) :
    StoredExact other root s ↔ StoredFits root := by
  refine forall₂_congr fun v w => forall₂_congr fun hs hp => ?_
  have hconfigure : Stored ((escape v.bytes).take 32) ((escape w.bytes).take 64) _ :=
    keeps_wifiConfigure (s := s) (itemText_string other hs) (itemText_string other hp)
  have hcallback : Stored ((escape v.bytes).take 32) ((escape w.bytes).take 64) _ :=
    keeps_getQrcodeCallback (s := s) (itemText_string other hs) (itemText_string other hp)
  rw [Keeps, Keeps, hconfigure.1, hconfigure.2, hcallback.1, hcallback.2, and_self, take_escape_eq_iff,
    take_escape_eq_iff]

/-- A name with a quote in it. -/
def quoteDoc : CJson :=
  .object [(['s'], .string (.ofChars "a\"b".toList)), (['p'], .string .empty)]

theorem quote_escaped : ¬ StoredExact (fun _ => .empty) quoteDoc freshSession := by
  intro h
  have hname : quoteDoc.getObjectItem ['s'] = some (.string (.ofChars "a\"b".toList)) := rfl
  have hpassword : quoteDoc.getObjectItem ['p'] = some (.string .empty) := rfl
  have hstored := (h _ _ hname hpassword).1
  have hconfigure : Stored ((escape (CStr.ofChars "a\"b".toList).bytes).take 32) ((escape []).take 64) _ :=
    keeps_wifiConfigure (s := freshSession) (itemText_string (fun _ => .empty) hname)
      (itemText_string _ hpassword)
  have heq := hconfigure.1.symm.trans hstored.1
  revert heq
  decide

end GokeWebcam.Server.Wifi
