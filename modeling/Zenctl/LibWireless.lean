import Zenctl.LibUsb

namespace Zenctl

open CString Netlink

/-!
# `nl80211.c` and `wireless.c`

The functions of `nl80211.c` return `-1` with `errno` set; here that is `none`.
-/

variable {σ α : Type}

/-! ## Requests -/

def genlIdCtrl : Nat := 16
def ctrlCmdGetfamily : Nat := 3
def ctrlAttrFamilyId : Nat := 1
def ctrlAttrFamilyName : Nat := 2
def nlmFRequest : Nat := 1
def nlmFMulti : Nat := 2
def nlmsgError : Nat := 2
def nlmsgDone : Nat := 3
def cmdGetWiphy : Nat := 1
def cmdSetWiphy : Nat := 2
def cmdReqSetReg : Nat := 27
def cmdGetReg : Nat := 31
def cmdSetPowerSave : Nat := 61
def attrWiphy : Nat := 1
def attrIfindex : Nat := 3
def attrRegAlpha2 : Nat := 33
def attrPsState : Nat := 93
def attrWiphyTxPowerSetting : Nat := 97
def attrWiphyTxPowerLevel : Nat := 98
def txPowerAutomatic : Int := 0
def txPowerFixed : Int := 2

/-- The bytes of a C string. -/
def cstrBytes (text : CStr) : Bytes :=
  text.map fun c => UInt8.ofNat c.toNat

/-- A signed 32-bit integer as four bytes. -/
def le32Int (v : Int) : Bytes :=
  le32 (v % 4294967296).toNat

/-- A request with its attributes; `none` when the buffer is too small. -/
def buildRequest (size family command : Nat) (attrs : List (Nat × Bytes)) : Option Bytes := do
  let b ← Builder.init size family command nlmFRequest 1
  let b ← attrs.foldlM (fun b attr => b.putAttr attr.1 attr.2) b
  pure b.finish

/-- A build function of `nl80211.c`: bad arguments and a full buffer set `errno`. -/
def buildOr (valid : Bool) (request : Option Bytes) : GetM σ (Option Bytes) :=
  if valid then
    match request with
    | some bytes => pure (some bytes)
    | none => do
        setErrno Errno.enobufs.1
        pure none
  else do
    setErrno Errno.einval.1
    pure none

def buildGetfamily (size : Nat) : GetM σ (Option Bytes) :=
  buildOr true (buildRequest size genlIdCtrl ctrlCmdGetfamily
    [(ctrlAttrFamilyName, cstrBytes "nl80211" ++ [0])])

def buildGetReg (size : Nat) (family : Int) : GetM σ (Option Bytes) :=
  buildOr (0 < family) (buildRequest size family.toNat cmdGetReg [])

/-- Two bytes and no NUL. -/
def buildSetReg (size : Nat) (family : Int) (alpha2 : CStr) : GetM σ (Option Bytes) :=
  buildOr (0 < family && alpha2.length = 2)
    (buildRequest size family.toNat cmdReqSetReg [(attrRegAlpha2, cstrBytes alpha2)])

def buildGetWiphy (size : Nat) (family phy : Int) : GetM σ (Option Bytes) :=
  buildOr (0 < family && 0 ≤ phy)
    (buildRequest size family.toNat cmdGetWiphy [(attrWiphy, le32Int phy)])

/-- Automatic power carries no level. -/
def buildSetTxpower (size : Nat) (family phy setting mBm : Int) : GetM σ (Option Bytes) :=
  buildOr (0 < family && 0 ≤ phy && txPowerAutomatic ≤ setting && setting ≤ txPowerFixed)
    (buildRequest size family.toNat cmdSetWiphy
      ([(attrWiphy, le32Int phy), (attrWiphyTxPowerSetting, le32Int setting)] ++
        if setting = txPowerAutomatic then [] else [(attrWiphyTxPowerLevel, le32Int mBm)]))

def buildSetPs (size : Nat) (family ifindex : Int) (enabled : Bool) : GetM σ (Option Bytes) :=
  buildOr (0 < family && 0 < ifindex)
    (buildRequest size family.toNat cmdSetPowerSave
      [(attrIfindex, le32Int ifindex), (attrPsState, le32Int (if enabled then 1 else 0))])

/-! ## Replies -/

/-- `nl80211__parse_ack` of a message that has a header: the error, `0` for an ack. -/
def parseAck (d : Datagram) (offset : Nat) : Int :=
  if d.nlmsgType offset ≠ nlmsgError then Errno.einval.1
  else if d.nlmsgLen offset < nlmsgHdrlen + 4 then Errno.ebadmsg.1
  else
    let e := d.i32 (offset + nlmsgHdrlen)
    if e = 0 then 0 else if 0 < e then e else Errno.einval.1

/-- The attributes behind both headers; the length is unsigned. -/
def findMessageAttr (d : Datagram) (offset type : Nat) : Option Nat :=
  let length := (d.nlmsgLen offset + 18446744073709551596) % 18446744073709551616
  d.findAttr type length (offset + nlmsgHdrlen + nlaHdrlen) length

/-- Where the payload of an attribute starts that has at least `payload` bytes. -/
def messagePayload (d : Datagram) (offset type payload : Nat) : Except Errno Nat :=
  if d.nlmsgLen offset < nlmsgHdrlen + nlaHdrlen then .error Errno.einval
  else
    match findMessageAttr d offset type with
    | none => .error Errno.enoent
    | some attr =>
        if d.u16 attr < nlaHdrlen + payload then .error Errno.enoent
        else .ok (attr + nlaHdrlen)

/-- `nl80211__parse_family_id`. -/
def parseFamilyId (d : Datagram) (offset : Nat) : Except Errno Int :=
  if d.nlmsgLen offset < nlmsgHdrlen + nlaHdrlen ∨ d.nlmsgType offset ≠ genlIdCtrl then
    .error Errno.einval
  else (messagePayload d offset ctrlAttrFamilyId 2).map fun start => (d.u16 start : Int)

/-- `nl80211__parse_txpower`. -/
def parseTxpower (d : Datagram) (offset : Nat) : Except Errno Int :=
  (messagePayload d offset attrWiphyTxPowerLevel 4).map d.i32

/-- `nl80211__parse_alpha2`: two bytes, up to a NUL. -/
def parseAlpha2 (d : Datagram) (offset : Nat) : Except Errno CStr :=
  (messagePayload d offset attrRegAlpha2 2).map fun start =>
    ofBuffer ([d.byte start, d.byte (start + 1)].map fun b => Char.ofNat b.toNat)

/-! ## Exchanges -/

/-- `nl80211_sendto`: a short send is an I/O error. -/
def checkSent (request : Bytes) (sent : Except Errno Nat) : GetM σ Bool :=
  match sent with
  | .error e => do
      setErrno e.1
      pure false
  | .ok n =>
      if n = request.length then pure true
      else do
        setErrno Errno.eio.1
        pure false

/-- `nl80211_recv_all`: the next datagram, waiting forever when none comes. -/
def recvAll : List (Except Errno Datagram) → GetM σ (Option (Datagram × List (Except Errno Datagram)))
  | replies => do
      if ← allocate then
        match replies with
        | [] => block
        | .error e :: _ => do
            setErrno e.1
            pure none
        | .ok d :: rest => pure (some (d, rest))
      else pure none

/-- The error the first error message of a reply carries, and what a reply without one is. -/
def ackOf (d : Datagram) : Int :=
  match d.messages (fun _ offset =>
      if d.nlmsgType offset = nlmsgError then .stop (parseAck d offset) else .skip ()) () with
  | .inl e => e
  | .inr _ => Errno.eio.1

/-- `nl80211_do_ack`. -/
def doAck (request : Bytes) : SetM σ (Option Unit) := do
  match ← getting (sysCall (fun os sys => os.netlinkSocket sys)) with
  | none => pure none
  | some _ => do
      let exchange ← exchangeSet
      if ← getting (checkSent request exchange.sent) then do
        match ← getting (recvAll exchange.replies) with
        | none => pure none
        | some (d, _) =>
            if ackOf d = 0 then pure (some ())
            else
              getting do
                setErrno (ackOf d)
                pure none
      else pure none
where
  exchangeSet : SetM σ Exchange :=
    fun os sys proc =>
      let answer := os.netlinkSet sys request
      (.value answer.1, answer.2, proc)

/-- What one datagram of a query comes to. -/
inductive Answer (α : Type) where
  | found (result : α)
  | refused (error : Int)
  | done

/-- One message of a query; the state says whether a multipart message was skipped. -/
def visitAnswer (d : Datagram) (read : Datagram → Nat → Except Errno α) (multi : Bool)
    (offset : Nat) : Visit (Answer α) Bool :=
  if d.nlmsgType offset = nlmsgError then
    if parseAck d offset = 0 then .stop .done else .stop (.refused (parseAck d offset))
  else if d.nlmsgType offset = nlmsgDone then .stop .done
  else
    match read d offset with
    | .ok result => .stop (.found result)
    | .error _ => .skip (multi || (d.nlmsgFlags offset / nlmFMulti) % 2 = 1)

/-- The receive loop of `nl80211_do_query`: multipart replies go on. -/
def queryLoop (read : Datagram → Nat → Except Errno α) :
    List (Except Errno Datagram) → GetM σ (Option α)
  | [] => do
      if ← allocate then block else pure none
  | reply :: rest => do
      match ← recvAll [reply] with
      | none => pure none
      | some (d, _) =>
          match d.messages (visitAnswer d read) false with
          | .inl (.found result) => pure (some result)
          | .inl (.refused e) => do
              setErrno e
              pure none
          | .inr true => queryLoop read rest
          | .inl .done | .inr false => do
              setErrno Errno.enoent.1
              pure none

/-- `nl80211_do_query` with the callback's reading of a message. -/
def doQuery (request : Bytes) (read : Datagram → Nat → Except Errno α) : GetM σ (Option α) := do
  match ← sysCall (fun os sys => os.netlinkSocket sys) with
  | none => pure none
  | some _ => do
      let exchange ← exchangeGet request
      if ← checkSent request exchange.sent then queryLoop read exchange.replies else pure none
where
  exchangeGet (request : Bytes) : GetM σ Exchange :=
    fun os sys proc => (.value (os.netlinkGet sys request), proc)

/--
One message of the family lookup.  The state is the `errno` of the message
skipped last; an ack ends the lookup and leaves `errno` at that.
-/
def visitFamily (d : Datagram) (skipped : Option Errno) (offset : Nat) :
    Visit (Except (Option Int) Int) (Option Errno) :=
  if d.nlmsgType offset = nlmsgError then
    if parseAck d offset = 0 then .stop (.error (skipped.map (·.1)))
    else .stop (.error (some (parseAck d offset)))
  else
    match parseFamilyId d offset with
    | .ok id => .stop (.ok id)
    | .error e => .skip (some e)

/-- What the reply to the family lookup comes to: the family, or the `errno` it sets. -/
def familyOf (d : Datagram) : Except (Option Int) Int :=
  match d.messages (visitFamily d) none with
  | .inl result => result
  | .inr _ => .error (some Errno.enoent.1)

/-- `nl80211_get_family_id`. -/
def getFamilyId : GetM σ (Option Int) := do
  match ← cachedFamily with
  | some id => pure (some id)
  | none => do
      match ← buildGetfamily 128 with
      | none => pure none
      | some request => do
          match ← sysCall (fun os sys => os.netlinkSocket sys) with
          | none => pure none
          | some _ => do
              let exchange ← doQuery.exchangeGet request
              if ← checkSent request exchange.sent then do
                match ← recvAll exchange.replies with
                | none => pure none
                | some (d, _) =>
                    match familyOf d with
                    | .ok id => do
                        cacheFamily id
                        pure (some id)
                    | .error (some e) => do
                        setErrno e
                        pure none
                    | .error none => pure none
              else pure none
where
  cachedFamily : GetM σ (Option Int) :=
    fun _ _ proc => (.value proc.familyId, proc)
  cacheFamily (id : Int) : GetM σ Unit :=
    fun _ _ proc => (.value (), { proc with familyId := some id })

/-- A query after the family lookup. -/
def familyQuery (build : Int → GetM σ (Option Bytes)) (read : Datagram → Nat → Except Errno α) :
    GetM σ (Option α) := do
  match ← getFamilyId with
  | none => pure none
  | some family => do
      match ← build family with
      | none => pure none
      | some request => doQuery request read

/-- A command after the family lookup. -/
def familyCommand (build : Int → GetM σ (Option Bytes)) : SetM σ (Option Unit) := do
  match ← getting getFamilyId with
  | none => pure none
  | some family => do
      match ← getting (build family) with
      | none => pure none
      | some request => doAck request

def nl80211GetRegdomain : GetM σ (Option CStr) :=
  familyQuery (buildGetReg 64) parseAlpha2

def nl80211SetRegdomain (alpha2 : CStr) : SetM σ (Option Unit) :=
  if alpha2.length ≠ 2 then
    getting do
      setErrno Errno.einval.1
      pure none
  else familyCommand fun family => buildSetReg 64 family alpha2

def nl80211GetTxpower (phy : Int) : GetM σ (Option Int) :=
  if phy < 0 then do
    setErrno Errno.einval.1
    pure none
  else familyQuery (fun family => buildGetWiphy 64 family phy) parseTxpower

/-- The level `-1` asks for automatic power. -/
def nl80211SetTxpower (phy mBm : Int) : SetM σ (Option Unit) :=
  if phy < 0 then
    getting do
      setErrno Errno.einval.1
      pure none
  else
    familyCommand fun family =>
      if mBm = -1 then buildSetTxpower 128 family phy txPowerAutomatic 0
      else buildSetTxpower 128 family phy txPowerFixed mBm

def nl80211SetPowerSave (ifindex : Int) (enabled : Bool) : SetM σ (Option Unit) :=
  if ifindex ≤ 0 then
    getting do
      setErrno Errno.einval.1
      pure none
  else familyCommand fun family => buildSetPs 64 family ifindex enabled

/-! ## Interfaces of a phy -/

/-- The number in an `ifindex` file, else `-1`. -/
def parseIfindex (file : OpenFile) : Int :=
  match file.lines 32 with
  | line :: _ =>
      match strtoll line with
      | some parsed =>
          if (parsed.rest = [] ∨ parsed.rest.head? = some '\n') ∧ 0 < parsed.value then
            toInt32 parsed.value
          else -1
      | none => -1
  | [] => -1

/-- The directory loop of `nl80211_phy_to_ifindex`: the first interface of the phy decides. -/
def scanInterfaces (phy : CStr) : List CStr → GetM σ Int
  | [] => pure (-1)
  | name :: rest =>
      if name.head? = some '.' ∨ 200 < name.length then scanInterfaces phy rest
      else do
        let dir := "/sys/class/net/".toList ++ name
        match ← sysCall (fun os sys => os.readlink sys (bounded 256 (dir ++ "/phy80211".toList))) with
        | none => scanInterfaces phy rest
        | some target =>
            if baseName (ofBuffer (target.take 511)) ≠ phy then scanInterfaces phy rest
            else do
              match ← sysCall (fun os sys =>
                  os.openRead sys (bounded 256 (dir ++ "/ifindex".toList))) with
              | none => scanInterfaces phy rest
              | some file => pure (parseIfindex file)

def phyToIfindex (phy : CStr) : GetM σ Int := do
  match ← sysCall (fun os sys => os.listDir sys "/sys/class/net".toList) with
  | none => pure (-1)
  | some names => scanInterfaces phy names

/-! ## The wireless domain -/

def wlSysfsBase : CStr := "/sys/class/ieee80211"

def zenctlWirelessOpen (phy : CStr) : GetM σ WirelessHandle := do
  let (dir, index) ← openNumbered wlSysfsBase "phy" phy "phy must be 'phy<N>'"
    "zenctl_wireless_open"
  pure ⟨phy, dir, index⟩

/-- The result of a function of `nl80211.c`, its `errno` reported. -/
def orErrno (program : GetM σ (Option α)) (caller : CStr) : GetM σ α := do
  match ← program with
  | some result => pure result
  | none => raiseErrno none caller

@[inherit_doc orErrno]
def orErrnoSet (program : SetM σ (Option Unit)) (caller : CStr) : SetM σ Unit := do
  match ← program with
  | some _ => pure ()
  | none => getting (raiseErrno none caller)

def zenctlWirelessGetRegdomain (_wl : WirelessHandle) : GetM σ CStr := do
  let alpha2 ← orErrno nl80211GetRegdomain "zenctl_wireless_get_regdomain"
  allocateOr "strdup failed" "zenctl_wireless_get_regdomain"
  pure alpha2

def zenctlWirelessSetRegdomain (_wl : WirelessHandle) (country : CStr) : SetM σ Unit :=
  if country.length ≠ 2 ∨ country.all isAlpha = false then
    getting (raise Err.einval "country must be an ISO 3166-1 alpha-2 code"
      "zenctl_wireless_set_regdomain")
  else orErrnoSet (nl80211SetRegdomain country) "zenctl_wireless_set_regdomain"

def zenctlWirelessGetTxpower (wl : WirelessHandle) : GetM σ Int :=
  orErrno (nl80211GetTxpower wl.index) "zenctl_wireless_get_txpower"

def zenctlWirelessSetTxpower (wl : WirelessHandle) (mBm : Int) : SetM σ Unit :=
  orErrnoSet (nl80211SetTxpower wl.index mBm) "zenctl_wireless_set_txpower"

def zenctlWirelessGetPowerSave (_wl : WirelessHandle) : GetM σ Bool :=
  raise Err.enotsup "power_save read not supported by nl80211" "zenctl_wireless_get_power_save"

def zenctlWirelessSetPowerSave (wl : WirelessHandle) (on : Bool) : SetM σ Unit := do
  let ifindex ← getting (phyToIfindex wl.phy)
  if ifindex < 0 then
    getting (raise Err.enoent "no wireless interface bound to this phy"
      "zenctl_wireless_set_power_save")
  else orErrnoSet (nl80211SetPowerSave ifindex on) "zenctl_wireless_set_power_save"

/-- The `rfkill` switch of the phy, else any wireless one. -/
def wirelessRfkill (wl : WirelessHandle) : GetM σ Int := do
  match ← quietly (zenctlRfkillFind (some wl.phy) (some "wlan".toList)) with
  | some index => pure index
  | none => zenctlRfkillFind none (some "wlan".toList)

def zenctlWirelessGetRfkillBlocked (wl : WirelessHandle) : GetM σ Bool := do
  let index ← wirelessRfkill wl
  zenctlRfkillGetSoft index

def zenctlWirelessSetRfkillBlocked (wl : WirelessHandle) (blocked : Bool) : SetM σ Unit := do
  let index ← getting (wirelessRfkill wl)
  zenctlRfkillSetSoft index blocked

def zenctlWirelessEnumerate : GetM σ (List CStr) :=
  enumerateSorted wlSysfsBase (isNumbered "phy") "zenctl_wireless_enumerate"

end Zenctl
