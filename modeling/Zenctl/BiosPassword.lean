import Zenctl.EfiVariables

namespace Zenctl

open CString

/-!
# The password of a BIOS setting

`zenctl_fw_bios_set_setting` gives the password to a role, writes the value and
clears the roles again.  What it leaves behind is read off the writes the
kernel saw.
-/

variable {σ α : Type}

/-! ## The writes the kernel saw -/

structure Entry where
  file : CStr
  text : CStr
  answer : Written
  deriving Repr, DecidableEq

/-- The state of the system remembers the writes. -/
def Os.Logs (os : Os σ) (log : σ → List Entry) : Prop :=
  ∀ sys file text, log (os.writeFile sys file text).2 =
    log sys ++ [⟨file, text, (os.writeFile sys file text).1⟩]

def rolePath (vendor role : CStr) : CStr :=
  joinPath (joinPath (vendorPath vendor "authentication") role) "current_password"

/-- The file some role takes its password from. -/
def IsRoleFile (sysfsRoot : Option CStr) (file : CStr) : Prop :=
  ∃ vendor role, file = resolvePath sysfsRoot (rolePath vendor role)

def Written.opened : Written → Bool
  | .openFailed _ => false
  | _ => true

/--
What the file holds changes: bytes of a text arrive, or the opening empties the
file.  `emptied` tells the files that opening for writing empties: regular files,
and not the attributes of the kernel, which a text without bytes never reaches.
-/
def Entry.Modifies (emptied : CStr → Bool) (entry : Entry) : Prop :=
  (entry.answer = .done ∧ entry.text ≠ []) ∨
    (emptied entry.file = true ∧ entry.answer.opened = true)

/--
No role file holds the password: each that took it was cleared afterwards, unless the
clearing write failed, and no other role file was modified.  The empty text clears
a file only where the opening empties it.
-/
structure PasswordGone (emptied : CStr → Bool) (sysfsRoot : Option CStr) (password : CStr)
    (log : List Entry) : Prop where
  cleared : ∀ file, IsRoleFile sysfsRoot file → ∀ before after,
    log = before ++ ⟨file, password, .done⟩ :: after →
      ∃ answer, ⟨file, [], answer⟩ ∈ after ∧ (answer = .done → emptied file = true)
  untouched : ∀ entry ∈ log, IsRoleFile sysfsRoot entry.file → entry.Modifies emptied →
    ⟨entry.file, password, .done⟩ ∈ log

/-! ## The directories -/

/-- What `opendir` and `stat` find; the names in a directory have no slash. -/
structure FirmwareTree where
  entries : CStr → Except Errno (List CStr)
  isDir : CStr → Bool
  plain : ∀ dir names, entries dir = .ok names → ∀ name ∈ names, '/' ∉ name

namespace FirmwareTree

def listed (tree : FirmwareTree) (dir : CStr) : List CStr :=
  match tree.entries dir with
  | .ok names => names.filter fun name => ¬ (name = ".".toList ∨ name = "..".toList)
  | .error _ => []

def vendor (tree : FirmwareTree) : Option CStr :=
  (tree.listed fwattrBase).find? fun entry => tree.isDir (joinPath fwattrBase entry)

def roles (tree : FirmwareTree) (vendor : CStr) : List CStr :=
  (tree.listed (vendorPath vendor "authentication")).filter fun role =>
    tree.isDir (joinPath (vendorPath vendor "authentication") role)

/-- Some vendor has a role. -/
def HasRole (tree : FirmwareTree) : Prop :=
  ∃ vendor role, vendor ∈ tree.listed fwattrBase ∧ tree.isDir (joinPath fwattrBase vendor) = true ∧
    role ∈ tree.roles vendor

end FirmwareTree

/-- A machine with these directories on which any call may fail. -/
structure Os.MayShow (os : Os σ) (tree : FirmwareTree) : Prop where
  entries : ∀ sys dir names, os.listDir sys dir = .ok names → tree.entries dir = .ok names
  isDir : ∀ sys path, os.isDir sys path = true → tree.isDir path = true

/-- A machine with these directories. -/
structure Os.Shows (os : Os σ) (tree : FirmwareTree) : Prop where
  entries : ∀ sys dir, os.listDir sys dir = tree.entries dir
  isDir : ∀ sys path, os.isDir sys path = tree.isDir path

/-! ## Files -/

theorem resolvePath_joinPath_getLast
    (sysfsRoot : Option CStr) (dir : CStr) {name : CStr} (nonempty : name ≠ []) :
    (resolvePath sysfsRoot (joinPath dir name)).getLast? = name.getLast? := by
  have path : joinPath dir name ≠ [] := by
    unfold joinPath
    split <;> simp [nonempty]
  have kept : (resolvePath sysfsRoot (joinPath dir name)).getLast? =
      (joinPath dir name).getLast? := by
    unfold resolvePath
    cases sysfsRoot with
    | none => rfl
    | some root =>
        dsimp only
        repeat' split
        · rfl
        · rfl
        · exact List.getLast?_append_of_ne_nil _ path
        · rfl
  rw [kept, joinPath_getLast nonempty]

/-- A value is never written to a role file. -/
theorem valueFile_not_role (sysfsRoot : Option CStr) (vendor name : CStr) :
    ¬ IsRoleFile sysfsRoot (resolvePath sysfsRoot (settingValuePath vendor name)) := by
  rintro ⟨other, role, same⟩
  have ends := congrArg List.getLast? same
  rw [settingValuePath, rolePath, resolvePath_joinPath_getLast _ _ (by decide),
    resolvePath_joinPath_getLast _ _ (by decide)] at ends
  revert ends
  decide

/-! ## A machine that answers -/

/-- Which answer the kernel has for a text written to a file. -/
def Os.Answers (os : Os σ) (answers : CStr → CStr → Written) : Prop :=
  ∀ sys file text, (os.writeFile sys file text).1 = answers file text

/-- The file behind the password of a role. -/
def passwordFile (sysfsRoot : Option CStr) (authDir role : CStr) : CStr :=
  resolvePath sysfsRoot (joinPath (joinPath authDir role) "current_password")

def valueFile (sysfsRoot : Option CStr) (vendor name : CStr) : CStr :=
  resolvePath sysfsRoot (settingValuePath vendor name)

def FirmwareTree.roleFiles (tree : FirmwareTree) (sysfsRoot : Option CStr) (vendor : CStr) :
    List CStr :=
  (tree.roles vendor).map (passwordFile sysfsRoot (vendorPath vendor "authentication"))

/-- The password is offered to the files up to the first that takes it. -/
def offers (answers : CStr → CStr → Written) (password : CStr) : List CStr → List Entry
  | [] => []
  | file :: rest =>
      ⟨file, password, answers file password⟩ ::
        if answers file password = .done then [] else offers answers password rest

/-- Every file is given the empty password. -/
def clears (answers : CStr → CStr → Written) (files : List CStr) : List Entry :=
  files.map fun file => ⟨file, [], answers file []⟩

section Run

variable {os : Os σ} {tree : FirmwareTree} {log : σ → List Entry}
  {answers : CStr → CStr → Written} {sys : σ} {proc : Proc}

theorem writeFileString_done
    {path text : CStr}
    (taken : (os.writeFile sys (resolvePath os.sysfsRoot path) text).1 = .done) :
    writeFileString path text os sys proc =
      (.value (), (os.writeFile sys (resolvePath os.sysfsRoot path) text).2, proc) := by
  refine (SetM.bind_value (show writeResolved path text os sys proc = (.value .done,
    (os.writeFile sys (resolvePath os.sysfsRoot path) text).2, proc) from ?_)).trans rfl
  unfold writeResolved
  rw [← taken]

theorem writeFileString_refused
    {path text : CStr}
    (refused : (os.writeFile sys (resolvePath os.sysfsRoot path) text).1 ≠ .done)
    (proc : Proc) :
    ∃ later, writeFileString path text os sys proc =
        (.failed, (os.writeFile sys (resolvePath os.sysfsRoot path) text).2, later) ∧
      later.allocations = proc.allocations := by
  unfold writeFileString
  rw [SetM.bind_value (show writeResolved path text os sys proc =
    (.value (os.writeFile sys (resolvePath os.sysfsRoot path) text).1,
      (os.writeFile sys (resolvePath os.sysfsRoot path) text).2, proc) from rfl)]
  cases given : (os.writeFile sys (resolvePath os.sysfsRoot path) text).1 with
  | done => exact absurd given refused
  | openFailed e => exact ⟨_, rfl, rfl⟩
  | writeFailed e => exact ⟨_, rfl, rfl⟩
  | closeFailed e => exact ⟨_, rfl, rfl⟩

/-- The log gains one entry, whatever the write returns. -/
theorem writeFileString_log (logs : os.Logs log) (path text : CStr) :
    log (writeFileString path text os sys proc).2.1 = log sys ++
      [⟨resolvePath os.sysfsRoot path, text,
        (os.writeFile sys (resolvePath os.sysfsRoot path) text).1⟩] := by
  rw [← logs]
  by_cases taken : (os.writeFile sys (resolvePath os.sysfsRoot path) text).1 = .done
  · rw [writeFileString_done taken]
  · obtain ⟨later, run, -⟩ := writeFileString_refused taken proc
    rw [run]

theorem quietWrite_run (os : Os σ) (sys : σ) (proc : Proc) (path text : CStr) :
    ∃ later, quietlySet (writeFileString path text) os sys proc =
        (.value (if (os.writeFile sys (resolvePath os.sysfsRoot path) text).1 = .done then some ()
          else none), (os.writeFile sys (resolvePath os.sysfsRoot path) text).2, later) ∧
      later.allocations = proc.allocations := by
  by_cases taken : (os.writeFile sys (resolvePath os.sysfsRoot path) text).1 = .done
  · rw [if_pos taken]
    exact ⟨_, quietlySet_value (writeFileString_done taken), rfl⟩
  · obtain ⟨later, run, remembers⟩ := writeFileString_refused taken proc
    rw [if_neg taken]
    exact ⟨_, quietlySet_failed run, remembers⟩

theorem passwordPath_run
    (os : Os σ) (sys : σ) (memory : proc.allocations = []) (authDir role : CStr) :
    passwordPath authDir role os sys proc =
      (.value (if os.isDir sys (joinPath authDir role) then
        some (joinPath (joinPath authDir role) "current_password") else none), proc) := by
  unfold passwordPath
  rw [GetM.bind_value (allocate_run memory), if_pos rfl,
    GetM.bind_value (show askIsDir (joinPath authDir role) os sys proc =
      (.value (os.isDir sys (joinPath authDir role)), proc) from rfl)]
  cases os.isDir sys (joinPath authDir role) with
  | false => rfl
  | true =>
      rw [if_pos rfl, GetM.bind_value (allocate_run memory)]
      rfl

section Directories

variable (memory : proc.allocations = []) (shows : os.Shows tree)

include memory shows

/-- Listing a directory delivers its names; one that cannot be opened has none. -/
theorem quietly_firmwareListDir (sys : σ) (dir : CStr) :
    ∃ names later, quietly (firmwareListDir dir) os sys proc = (.value names, later) ∧
      names.getD [] = tree.listed dir ∧ later.allocations = [] := by
  unfold FirmwareTree.listed
  rw [← shows.entries sys dir]
  cases listed : os.listDir sys dir with
  | ok names =>
      exact ⟨_, _, quietly_value (firmwareListDir_run memory listed), rfl, memory⟩
  | error e =>
      obtain ⟨later, raised, remembers⟩ : ∃ later, (raiseFirmware e dir : GetM σ (List CStr)) os sys
          proc = (.failed, later) ∧ later.allocations = [] := ⟨_, rfl, memory⟩
      have failed : firmwareListDir dir os sys proc = (.failed, later) := by
        refine GetM.bind_failed (Eq.trans ?_ raised)
        simp only [firmwareListDir.listed, listed]
      exact ⟨_, _, quietly_failed failed, rfl, remembers⟩

theorem firstVendor_run (entries : List CStr) :
    firstVendor entries os sys proc =
      (.value (entries.find? fun entry => tree.isDir (joinPath fwattrBase entry)), proc) := by
  induction entries with
  | nil => rfl
  | cons entry rest inductionHypothesis =>
      unfold firstVendor
      rw [GetM.bind_value (allocate_run memory), if_pos rfl,
        GetM.bind_value (show askIsDir (joinPath fwattrBase entry) os sys proc =
          (.value (os.isDir sys (joinPath fwattrBase entry)), proc) from rfl),
        shows.isDir, List.find?_cons]
      cases tree.isDir (joinPath fwattrBase entry) with
      | false => exact inductionHypothesis
      | true =>
          rw [if_pos rfl, GetM.bind_value (allocate_run memory)]
          rfl

theorem fwattrFindVendor_run
    {vendor : CStr} (found : tree.vendor = some vendor) (sys : σ) :
    fwattrFindVendor os sys proc = (.value vendor, proc) := by
  unfold FirmwareTree.vendor FirmwareTree.listed at found
  rw [← shows.entries sys fwattrBase] at found
  cases listed : os.listDir sys fwattrBase with
  | error e =>
      rw [listed] at found
      cases found
  | ok names =>
      rw [listed] at found
      refine (GetM.bind_value (firmwareListDir_run memory listed)).trans ?_
      refine (GetM.bind_value (firstVendor_run memory shows _)).trans ?_
      rw [found]
      rfl

end Directories

section Roles

variable (logs : os.Logs log) (answer : os.Answers answers)

include logs answer

/-- A write to the password file of a role, and what the log says about it. -/
theorem passwordWrite_run
    (sys : σ) (proc : Proc) (authDir role text : CStr) :
    ∃ changed later,
      quietlySet (writeFileString (joinPath (joinPath authDir role) "current_password") text) os sys
          proc =
        (.value (if answers (passwordFile os.sysfsRoot authDir role) text = .done then some ()
          else none), changed, later) ∧
      log changed = log sys ++ [⟨passwordFile os.sysfsRoot authDir role, text,
        answers (passwordFile os.sysfsRoot authDir role) text⟩] ∧
      later.allocations = proc.allocations := by
  obtain ⟨later, run, remembers⟩ := quietWrite_run os sys proc
    (joinPath (joinPath authDir role) "current_password") text
  have written := logs sys (passwordFile os.sysfsRoot authDir role) text
  rw [answer] at run written
  exact ⟨_, later, run, written, remembers⟩

variable (memory : proc.allocations = []) (shows : os.Shows tree)

include memory shows

theorem unlockRoles_run
    (authDir password : CStr) (roles : List CStr) :
    ∃ changed later, unlockRoles authDir password roles os sys proc = (.value (), changed, later) ∧
      log changed = log sys ++ offers answers password
        ((roles.filter fun role => tree.isDir (joinPath authDir role)).map
          (passwordFile os.sysfsRoot authDir)) ∧
      later.allocations = [] := by
  induction roles generalizing sys proc with
  | nil =>
      exact ⟨sys, proc, rfl, (List.append_nil _).symm, memory⟩
  | cons role rest inductionHypothesis =>
      have asked := passwordPath_run os sys memory authDir role
      rw [shows.isDir] at asked
      rw [List.filter_cons]
      cases dir : tree.isDir (joinPath authDir role) with
      | false =>
          obtain ⟨changed, later, run, seen⟩ := inductionHypothesis memory
          rw [dir] at asked
          exact ⟨changed, later, (SetM.bind_getting_value asked).trans run, seen⟩
      | true =>
          rw [dir] at asked
          obtain ⟨between, after, offered, written, remembers⟩ :=
            passwordWrite_run logs answer sys proc authDir role password
          rw [if_pos rfl, List.map_cons, offers]
          by_cases taken : answers (passwordFile os.sysfsRoot authDir role) password = .done
          · refine ⟨between, after, ?_, ?_, remembers.trans memory⟩
            · refine (SetM.bind_getting_value asked).trans ((SetM.bind_value offered).trans ?_)
              rw [if_pos taken]
              rfl
            · rw [if_pos taken]
              exact written
          · obtain ⟨changed, later, run, seen, kept⟩ := inductionHypothesis (remembers.trans memory)
            refine ⟨changed, later, ?_, ?_, kept⟩
            · refine (SetM.bind_getting_value asked).trans ((SetM.bind_value offered).trans ?_)
              rw [if_neg taken]
              exact run
            · rw [if_neg taken, seen, written, List.append_assoc]
              rfl

theorem clearRoles_run
    (authDir : CStr) (roles : List CStr) :
    ∃ changed later, clearRoles authDir roles os sys proc = (.value (), changed, later) ∧
      log changed = log sys ++ clears answers
        ((roles.filter fun role => tree.isDir (joinPath authDir role)).map
          (passwordFile os.sysfsRoot authDir)) := by
  induction roles generalizing sys proc with
  | nil =>
      exact ⟨sys, proc, rfl, (List.append_nil _).symm⟩
  | cons role rest inductionHypothesis =>
      have asked := passwordPath_run os sys memory authDir role
      rw [shows.isDir] at asked
      rw [List.filter_cons]
      cases dir : tree.isDir (joinPath authDir role) with
      | false =>
          obtain ⟨changed, later, run, seen⟩ := inductionHypothesis memory
          rw [dir] at asked
          exact ⟨changed, later, (SetM.bind_getting_value asked).trans run, seen⟩
      | true =>
          rw [dir] at asked
          obtain ⟨between, after, cleared, written, remembers⟩ :=
            passwordWrite_run logs answer sys proc authDir role []
          obtain ⟨changed, later, run, seen⟩ := inductionHypothesis (remembers.trans memory)
          refine ⟨changed, later, ?_, ?_⟩
          · exact (SetM.bind_getting_value asked).trans ((SetM.bind_value cleared).trans run)
          · rw [if_pos rfl, seen, written, List.append_assoc]
            rfl

theorem unlockBios_run (sys : σ) (vendor password : CStr) :
    ∃ changed later, unlockBios vendor password os sys proc = (.value (), changed, later) ∧
      log changed = log sys ++ offers answers password (tree.roleFiles os.sysfsRoot vendor) ∧
      later.allocations = [] := by
  obtain ⟨names, listed, listing, same, remembers⟩ :=
    quietly_firmwareListDir memory shows sys (vendorPath vendor "authentication")
  obtain ⟨changed, later, run, seen⟩ := unlockRoles_run logs answer remembers shows
    (vendorPath vendor "authentication") password (names.getD [])
  refine ⟨changed, later, ?_, ?_⟩
  · refine (SetM.bind_getting_value (allocateOr_plenty memory _ _)).trans ?_
    refine (SetM.bind_getting_value (allocateOr_plenty memory _ _)).trans ?_
    refine (SetM.bind_getting_value listing).trans (Eq.trans ?_ run)
    cases names <;> rfl
  · rw [same] at seen
    exact seen

theorem clearPasswords_run
    {vendor : CStr} (found : tree.vendor = some vendor) :
    ∃ changed later, clearPasswords os sys proc = (.value (), changed, later) ∧
      log changed = log sys ++ clears answers (tree.roleFiles os.sysfsRoot vendor) := by
  have looked := quietly_value (fwattrFindVendor_run memory shows found sys)
  obtain ⟨names, listed, listing, same, remembers⟩ :=
    quietly_firmwareListDir memory shows sys (vendorPath vendor "authentication")
  obtain ⟨changed, later, run, seen⟩ := clearRoles_run logs answer remembers shows
    (vendorPath vendor "authentication") (names.getD [])
  refine ⟨changed, later, ?_, ?_⟩
  · refine (SetM.bind_getting_value looked).trans ?_
    refine (SetM.bind_getting_value (allocateMany_run memory 2)).trans ?_
    refine (SetM.bind_getting_value listing).trans (Eq.trans ?_ run)
    cases names <;> rfl
  · rw [same] at seen
    exact seen

/-- The writes of a call that finds a vendor. -/
theorem zenctlFwBiosSetSetting_log
    {vendor : CStr} (found : tree.vendor = some vendor)
    {name : CStr} (named : name ≠ []) (plain : '/' ∉ name)
    (value : CStr) {password : CStr} (nonempty : password ≠ []) :
    log (zenctlFwBiosSetSetting name value (some password) os sys proc).2.1 =
      log sys ++ offers answers password (tree.roleFiles os.sysfsRoot vendor) ++
        ⟨valueFile os.sysfsRoot vendor name, value,
          answers (valueFile os.sysfsRoot vendor name) value⟩ ::
        if answers (valueFile os.sysfsRoot vendor name) value = .done then
          clears answers (tree.roleFiles os.sysfsRoot vendor) else [] := by
  obtain ⟨unlocked, after, unlock, offered, remembers⟩ :=
    unlockBios_run logs answer memory shows sys vendor password
  have path : settingValuePathOr vendor name os unlocked after =
      (.value (settingValuePath vendor name), after) := by
    refine (GetM.bind_value (allocateOr_plenty remembers _ _)).trans ?_
    refine (GetM.bind_value (allocateOr_plenty remembers _ _)).trans ?_
    refine (GetM.bind_value (allocateOr_plenty remembers _ _)).trans ?_
    exact (GetM.bind_value (allocateOr_plenty remembers _ _)).trans rfl
  have reaches : zenctlFwBiosSetSetting name value (some password) os sys proc =
      (writeFileString (settingValuePath vendor name) value >>= fun _ => clearPasswords) os unlocked
        after := by
    unfold zenctlFwBiosSetSetting
    rw [if_neg named, if_neg plain]
    refine (SetM.bind_getting_value (fwattrFindVendor_run memory shows found sys)).trans ?_
    dsimp only [Option.getD_some]
    rw [if_neg nonempty]
    exact (SetM.bind_value unlock).trans (SetM.bind_getting_value path)
  have written := logs unlocked (valueFile os.sysfsRoot vendor name) value
  rw [answer, offered] at written
  rw [reaches]
  by_cases taken : answers (valueFile os.sysfsRoot vendor name) value = .done
  · obtain ⟨changed, later, run, cleared⟩ := clearPasswords_run logs answer remembers shows found
    rw [if_pos taken, SetM.bind_value (writeFileString_done ((answer _ _ _).trans taken)), run]
    dsimp only
    rw [cleared]
    refine (congrArg (· ++ _) written).trans ?_
    rw [List.append_assoc]
    rfl
  · obtain ⟨later, run, -⟩ := writeFileString_refused
      (show (os.writeFile unlocked (valueFile os.sysfsRoot vendor name) value).1 ≠ .done by
        rwa [answer]) after
    rw [if_neg taken, SetM.bind_failed run]
    exact written

end Roles

end Run

/-! ## What the writes leave behind -/

/-- The first file that takes the password. -/
def taker (answers : CStr → CStr → Written) (password : CStr) (files : List CStr) : Option CStr :=
  files.find? fun file => answers file password = .done

/-- The files that are offered the password before one takes it. -/
def refusers (answers : CStr → CStr → Written) (password : CStr) (files : List CStr) : List CStr :=
  files.takeWhile fun file => answers file password ≠ .done

/--
What the answers must be for nothing to stay behind.  A file that takes the
password must be one that the empty text clears, or its clearing must fail, and
the value must be taken, as nothing is cleared otherwise.  Opening the files of
the other roles, to offer the password or to clear it, must not empty them.
-/
structure LeavesNothing (emptied : CStr → Bool) (answers : CStr → CStr → Written)
    (files : List CStr) (valueFile value password : CStr) : Prop where
  taken : ∀ file ∈ taker answers password files,
    answers valueFile value = .done ∧ (answers file [] = .done → emptied file = true)
  offered : ∀ file ∈ refusers answers password files,
    emptied file = true → (answers file password).opened = false
  others : answers valueFile value = .done → ∀ file ∈ files, emptied file = true →
    (answers file []).opened = true → taker answers password files = some file

section Log

variable {answers : CStr → CStr → Written} {password : CStr} {files : List CStr}

theorem mem_offers
    {entry : Entry} (member : entry ∈ offers answers password files) :
    entry.text = password ∧ entry.answer = answers entry.file password ∧
      (taker answers password files = some entry.file ∨
        entry.file ∈ refusers answers password files) := by
  induction files with
  | nil => cases member
  | cons file rest inductionHypothesis =>
      unfold offers at member
      unfold taker refusers
      by_cases done : answers file password = .done
      · rw [if_pos done] at member
        cases List.mem_singleton.mp member
        exact ⟨rfl, rfl, .inl (List.find?_cons_of_pos (by simpa using done))⟩
      · rw [List.find?_cons_of_neg (by simpa using done),
          List.takeWhile_cons_of_pos (by simpa using done)]
        rw [if_neg done] at member
        rcases List.mem_cons.mp member with rfl | later
        · exact ⟨rfl, rfl, .inr List.mem_cons_self⟩
        · obtain ⟨text, answer, place⟩ := inductionHypothesis later
          exact ⟨text, answer, place.imp_right (List.mem_cons_of_mem _)⟩

theorem offers_refuser
    {file : CStr} (member : file ∈ refusers answers password files) :
    (⟨file, password, answers file password⟩ : Entry) ∈ offers answers password files := by
  induction files with
  | nil => cases member
  | cons first rest inductionHypothesis =>
      unfold refusers at member
      unfold offers
      by_cases done : answers first password = .done
      · rw [List.takeWhile_cons_of_neg (by simpa using done)] at member
        cases member
      · rw [List.takeWhile_cons_of_pos (by simpa using done)] at member
        rw [if_neg done]
        rcases List.mem_cons.mp member with rfl | later
        · exact List.mem_cons_self
        · exact List.mem_cons_of_mem _ (inductionHypothesis later)

theorem refuser_refuses
    {file : CStr} (member : file ∈ refusers answers password files) :
    answers file password ≠ .done := by
  simpa using List.mem_takeWhile_imp member

/-- The offers end with the file that takes the password. -/
theorem offers_taker
    {file : CStr} (taken : taker answers password files = some file) :
    ∃ before, offers answers password files = before ++ [⟨file, password, .done⟩] := by
  induction files with
  | nil => cases taken
  | cons first rest inductionHypothesis =>
      unfold offers
      by_cases done : answers first password = .done
      · rw [taker, List.find?_cons_of_pos (by simpa using done)] at taken
        cases taken
        exact ⟨[], by rw [if_pos done, done]; rfl⟩
      · rw [taker, List.find?_cons_of_neg (by simpa using done)] at taken
        obtain ⟨before, shape⟩ := inductionHypothesis taken
        exact ⟨_ :: before, by rw [if_neg done, shape]; rfl⟩

theorem mem_clears
    {entry : Entry} :
    entry ∈ clears answers files ↔
      entry.text = [] ∧ entry.file ∈ files ∧ entry.answer = answers entry.file [] := by
  unfold clears
  rw [List.mem_map]
  constructor
  · rintro ⟨file, member, rfl⟩
    exact ⟨rfl, member, rfl⟩
  · rintro ⟨text, member, answer⟩
    refine ⟨entry.file, member, ?_⟩
    rw [← answer, ← text]

/-- What stands in a later part of a list comes after what stands in the earlier part. -/
theorem mem_after_split
    {first second before after : List α} {item : α}
    (split : first ++ second = before ++ item :: after)
    (early : item ∉ second) :
    ∀ other ∈ second, other ∈ after := by
  intro other member
  rcases List.append_eq_append_iff.mp split with ⟨between, -, rest⟩ | ⟨between, -, rest⟩
  · exact absurd (by rw [rest]; simp) early
  · cases between with
    | nil => exact absurd (by rw [← List.nil_append second, ← rest]; simp) early
    | cons head tail =>
        cases rest
        simp [member]

variable {sysfsRoot : Option CStr} {settingFile value : CStr}
  (other : ¬ IsRoleFile sysfsRoot settingFile)
  (nonempty : password ≠ [])
  (roles : ∀ file ∈ files, IsRoleFile sysfsRoot file)

include other nonempty

/-- Behind the offers no role file gets the password. -/
theorem taken_early
    {file : CStr} (role : IsRoleFile sysfsRoot file) :
    (⟨file, password, .done⟩ : Entry) ∉ (⟨settingFile, value, answers settingFile value⟩ ::
      if answers settingFile value = .done then clears answers files else []) := by
  intro member
  rcases List.mem_cons.mp member with same | later
  · have file : file = settingFile := congrArg Entry.file same
    exact other (file ▸ role)
  · split at later
    · exact nonempty (mem_clears.mp later).1
    · cases later

theorem taken_iff
    {file : CStr} (role : IsRoleFile sysfsRoot file) :
    (⟨file, password, .done⟩ : Entry) ∈ offers answers password files ++
        ⟨settingFile, value, answers settingFile value⟩ ::
          (if answers settingFile value = .done then clears answers files else []) ↔
      taker answers password files = some file := by
  constructor
  · intro member
    rcases List.mem_append.mp member with offered | later
    · obtain ⟨-, answer, first | refuser⟩ := mem_offers offered
      · exact first
      · exact absurd answer.symm (refuser_refuses refuser)
    · exact absurd later (taken_early other nonempty role)
  · intro taken
    obtain ⟨before, shape⟩ := offers_taker taken
    rw [shape]
    simp

include roles

theorem passwordGone_iff (emptied : CStr → Bool) :
    PasswordGone emptied sysfsRoot password (offers answers password files ++
        ⟨settingFile, value, answers settingFile value⟩ ::
          if answers settingFile value = .done then clears answers files else []) ↔
      LeavesNothing emptied answers files settingFile value password := by
  constructor
  · intro gone
    refine ⟨fun file taken => ?_, fun file member empties => ?_,
      fun done file member empties opened => ?_⟩
    · have role := roles file (List.mem_of_find?_eq_some taken)
      obtain ⟨before, shape⟩ := offers_taker taken
      rw [shape] at gone
      obtain ⟨answer, member, clears⟩ := gone.cleared file role before _ (List.append_assoc _ _ _)
      rcases List.mem_cons.mp member with same | later
      · have same : file = settingFile := congrArg Entry.file same
        exact absurd (same ▸ role) other
      · split at later
        · next done =>
            obtain ⟨-, -, same⟩ := mem_clears.mp later
            exact ⟨done, fun cleared => clears (same.trans cleared)⟩
        · cases later
    · by_contra opened
      have role := roles file (List.takeWhile_subset _ member)
      have modified := gone.untouched ⟨file, password, answers file password⟩
        (List.mem_append_left _ (offers_refuser member)) role
        (.inr ⟨empties, Bool.not_eq_false _ ▸ opened⟩)
      have taken := (taken_iff other nonempty role).mp modified
      exact refuser_refuses member (by simpa using List.find?_some taken)
    · refine (taken_iff other nonempty (roles file member)).mp
        (gone.untouched ⟨file, [], answers file []⟩ ?_ (roles file member) (.inr ⟨empties, opened⟩))
      rw [if_pos done]
      exact List.mem_append_right _ (List.mem_cons_of_mem _ (mem_clears.mpr ⟨rfl, member, rfl⟩))
  · intro nothing
    refine ⟨fun file role before after shape => ?_, fun entry member role modified => ?_⟩
    · have taken := (taken_iff other nonempty role).mp (by rw [shape]; simp)
      obtain ⟨accepted, clears⟩ := nothing.taken file taken
      refine ⟨answers file [], mem_after_split shape (taken_early other nonempty role) _ ?_, clears⟩
      rw [if_pos accepted]
      refine List.mem_cons_of_mem _ (mem_clears.mpr ⟨rfl, ?_, rfl⟩)
      exact List.mem_of_find?_eq_some taken
    · rw [taken_iff other nonempty role]
      rcases List.mem_append.mp member with offered | later
      · obtain ⟨-, answer, first | refuser⟩ := mem_offers offered
        · exact first
        · rcases modified with ⟨done, -⟩ | ⟨empties, opened⟩
          · exact absurd (answer.symm.trans done) (refuser_refuses refuser)
          · rw [answer, nothing.offered _ refuser empties] at opened
            cases opened
      · rcases List.mem_cons.mp later with rfl | cleared
        · exact absurd role other
        · split at cleared
          · next accepted =>
              obtain ⟨text, file, answer⟩ := mem_clears.mp cleared
              rcases modified with ⟨-, bytes⟩ | ⟨empties, opened⟩
              · exact absurd text bytes
              · exact nothing.others accepted entry.file file empties (answer ▸ opened)
          · cases cleared

end Log

/-! ## When no vendor has a role -/

section Failing

variable {os : Os σ} {tree : FirmwareTree} (may : os.MayShow tree)

theorem copyNames_value
    {message dir : CStr} {names : List CStr} {sys : σ} :
    ∀ {capacity : Nat} {copied result : List CStr} {proc later : Proc},
      copyNames message dir capacity copied names os sys proc = (.value result, later) →
        ∀ name ∈ result, name ∈ copied ∨
          name ∈ names.filter fun name => ¬ (name = ".".toList ∨ name = "..".toList) := by
  induction names with
  | nil =>
      intro capacity copied result proc later run name member
      cases run
      exact .inl member
  | cons first rest inductionHypothesis =>
      intro capacity copied result proc later run name member
      unfold copyNames at run
      have later : name ∈ copied ++ [first] ∨ name ∈ rest.filter (fun name =>
          ¬ (name = ".".toList ∨ name = "..".toList)) → ¬ (first = ".".toList ∨ first = "..".toList) →
          name ∈ copied ∨ name ∈ (first :: rest).filter fun name =>
            ¬ (name = ".".toList ∨ name = "..".toList) := by
        intro found entry
        rw [List.filter_cons_of_pos (by simpa using entry)]
        simp only [List.mem_append, List.mem_cons] at found ⊢
        tauto
      split at run
      · next dots =>
          rw [List.filter_cons_of_neg (by rw [decide_eq_true_eq]; exact not_not.mpr dots)]
          exact inductionHypothesis run name member
      · next entry =>
          obtain ⟨_, _, -, copying⟩ := GetM.value_of_bind run
          split at copying
          · obtain ⟨_, _, -, grown⟩ := GetM.value_of_bind copying
            exact later (inductionHypothesis grown name member) entry
          · exact later (inductionHypothesis copying name member) entry

theorem firstVendor_value
    {entries : List CStr} {sys : σ} :
    ∀ {proc later : Proc} {vendor : CStr},
      firstVendor entries os sys proc = (.value (some vendor), later) →
        vendor ∈ entries ∧ os.isDir sys (joinPath fwattrBase vendor) = true := by
  induction entries with
  | nil =>
      intro proc later vendor run
      cases run
  | cons entry rest inductionHypothesis =>
      intro proc later vendor run
      have further : ∀ {between : Proc},
          firstVendor rest os sys between = (.value (some vendor), later) →
            vendor ∈ entry :: rest ∧ os.isDir sys (joinPath fwattrBase vendor) = true := by
        intro between found
        obtain ⟨member, dir⟩ := inductionHypothesis found
        exact ⟨List.mem_cons_of_mem _ member, dir⟩
      obtain ⟨memory, between, -, looking⟩ := GetM.value_of_bind run
      cases memory with
      | false => exact further looking
      | true =>
          obtain ⟨isDir, _, asked, chosen⟩ := GetM.value_of_bind looking
          cases asked
          cases dir : os.isDir sys (joinPath fwattrBase entry) with
          | false =>
              rw [dir] at chosen
              exact further chosen
          | true =>
              rw [dir] at chosen
              obtain ⟨copied, _, -, returned⟩ := GetM.value_of_bind chosen
              cases copied with
              | false => cases returned
              | true =>
                  cases returned
                  exact ⟨List.mem_cons_self, dir⟩

theorem passwordPath_value
    {authDir role path : CStr} {sys : σ} {proc later : Proc}
    (run : passwordPath authDir role os sys proc = (.value (some path), later)) :
    os.isDir sys (joinPath authDir role) = true := by
  obtain ⟨memory, _, -, looking⟩ := GetM.value_of_bind run
  cases memory with
  | false => cases looking
  | true =>
      obtain ⟨isDir, _, asked, chosen⟩ := GetM.value_of_bind looking
      cases asked
      cases dir : os.isDir sys (joinPath authDir role) with
      | false =>
          rw [dir] at chosen
          cases chosen
      | true => rfl

theorem settingValuePathOr_value
    {vendor name path : CStr} {sys : σ} {proc later : Proc}
    (run : settingValuePathOr vendor name os sys proc = (.value path, later)) :
    path = settingValuePath vendor name := by
  obtain ⟨_, _, -, second⟩ := GetM.value_of_bind run
  obtain ⟨_, _, -, third⟩ := GetM.value_of_bind second
  obtain ⟨_, _, -, fourth⟩ := GetM.value_of_bind third
  obtain ⟨_, _, -, returned⟩ := GetM.value_of_bind fourth
  cases returned
  rfl

theorem value_of_quietly
    {program : GetM σ α} {sys : σ} {proc final : Proc} {result : α}
    (run : quietly program os sys proc = (.value (some result), final)) :
    ∃ later, program os sys proc = (.value result, later) := by
  unfold quietly attempt at run
  cases inner : program os sys proc with
  | mk outcome later =>
      rw [inner] at run
      cases outcome with
      | value found =>
          cases run
          exact ⟨later, rfl⟩
      | failed => cases run
      | blocked => cases run

include may

theorem firmwareListDir_value
    {dir : CStr} {sys : σ} {proc later : Proc} {names : List CStr}
    (run : firmwareListDir dir os sys proc = (.value names, later)) :
    ∀ name ∈ names, name ∈ tree.listed dir := by
  obtain ⟨found, _, listing, copying⟩ := GetM.value_of_bind run
  obtain ⟨_, _, -, copied⟩ := GetM.value_of_bind copying
  have listed : os.listDir sys dir = .ok found := by
    unfold firmwareListDir.listed at listing
    split at listing
    · next names answer =>
        cases listing
        exact answer
    · cases listing
  intro name member
  rw [FirmwareTree.listed, may.entries sys dir found listed]
  rcases copyNames_value copied name member with none | entry
  · cases none
  · exact entry

theorem fwattrFindVendor_value
    {sys : σ} {proc later : Proc} {vendor : CStr}
    (run : fwattrFindVendor os sys proc = (.value vendor, later)) :
    vendor ∈ tree.listed fwattrBase ∧ tree.isDir (joinPath fwattrBase vendor) = true := by
  obtain ⟨entries, between, listing, looking⟩ := GetM.value_of_bind run
  obtain ⟨first, _, looked, returned⟩ := GetM.value_of_bind looking
  cases first with
  | none => cases returned
  | some found =>
      cases returned
      obtain ⟨member, dir⟩ := firstVendor_value looked
      exact ⟨firmwareListDir_value may listing _ member, may.isDir _ _ dir⟩

/-- Directories without roles are left alone. -/
theorem unlockRoles_quiet
    {authDir password : CStr} {roles : List CStr}
    (noRole : ∀ role ∈ roles, tree.isDir (joinPath authDir role) = false) :
    ∀ sys proc, (unlockRoles authDir password roles).Ends os sys proc fun _ final => final = sys := by
  induction roles with
  | nil => exact fun _ _ => rfl
  | cons role rest inductionHypothesis =>
      intro sys proc
      refine .getting rfl rfl fun path later asked => ?_
      cases path with
      | none =>
          exact inductionHypothesis (fun role member => noRole role (List.mem_cons_of_mem _ member))
            sys later
      | some path =>
          have dir := may.isDir _ _ (passwordPath_value asked)
          rw [noRole role List.mem_cons_self] at dir
          cases dir

theorem clearRoles_quiet
    {authDir : CStr} {roles : List CStr}
    (noRole : ∀ role ∈ roles, tree.isDir (joinPath authDir role) = false) :
    ∀ sys proc, (clearRoles authDir roles).Ends os sys proc fun _ final => final = sys := by
  induction roles with
  | nil => exact fun _ _ => rfl
  | cons role rest inductionHypothesis =>
      intro sys proc
      refine .getting rfl rfl fun path later asked => ?_
      cases path with
      | none =>
          exact inductionHypothesis (fun role member => noRole role (List.mem_cons_of_mem _ member))
            sys later
      | some path =>
          have dir := may.isDir _ _ (passwordPath_value asked)
          rw [noRole role List.mem_cons_self] at dir
          cases dir

/-- The names of a vendor without roles. -/
theorem noRole_listed
    (noRole : ¬ tree.HasRole)
    {vendor : CStr} (found : vendor ∈ tree.listed fwattrBase)
    (dir : tree.isDir (joinPath fwattrBase vendor) = true)
    {sys : σ} {proc later : Proc} {names : List CStr}
    (run : firmwareListDir (vendorPath vendor "authentication") os sys proc =
      (.value names, later)) :
    ∀ role ∈ names, tree.isDir (joinPath (vendorPath vendor "authentication") role) = false := by
  intro role member
  by_contra isDir
  refine noRole ⟨vendor, role, found, dir, ?_⟩
  refine List.mem_filter.mpr ⟨firmwareListDir_value may run role member, ?_⟩
  simpa using isDir

theorem unlockBios_quiet
    (noRole : ¬ tree.HasRole)
    {vendor : CStr} (found : vendor ∈ tree.listed fwattrBase)
    (dir : tree.isDir (joinPath fwattrBase vendor) = true)
    (password : CStr) (sys : σ) (proc : Proc) :
    (unlockBios vendor password).Ends os sys proc fun _ final => final = sys := by
  refine .getting rfl rfl fun _ _ _ => ?_
  refine .getting rfl rfl fun _ between _ => ?_
  refine .getting rfl rfl fun names later listing => ?_
  cases names with
  | none => exact rfl
  | some roles =>
      obtain ⟨_, run⟩ := value_of_quietly listing
      exact unlockRoles_quiet may (noRole_listed may noRole found dir run) sys later

theorem clearPasswords_quiet
    (noRole : ¬ tree.HasRole) (sys : σ) (proc : Proc) :
    clearPasswords.Ends os sys proc fun _ final => final = sys := by
  refine .getting rfl rfl fun vendor _ looked => ?_
  cases vendor with
  | none => exact rfl
  | some vendor =>
      obtain ⟨_, looked⟩ := value_of_quietly looked
      obtain ⟨found, dir⟩ := fwattrFindVendor_value may looked
      refine .getting rfl rfl fun memory _ _ => ?_
      cases memory with
      | false => exact rfl
      | true =>
          refine .getting rfl rfl fun names later listing => ?_
          cases names with
          | none => exact rfl
          | some roles =>
              obtain ⟨_, run⟩ := value_of_quietly listing
              exact clearRoles_quiet may (noRole_listed may noRole found dir run) sys later

/-- Without roles, nothing but the value is written. -/
theorem zenctlFwBiosSetSetting_quiet
    {log : σ → List Entry} (logs : os.Logs log)
    (noRole : ¬ tree.HasRole)
    (name value : CStr) {password : CStr} (nonempty : password ≠ [])
    (sys : σ) (proc : Proc) :
    (zenctlFwBiosSetSetting name value (some password)).Ends os sys proc fun _ final =>
      ∀ entry ∈ log final, entry ∈ log sys ∨
        ∃ vendor, entry.file = valueFile os.sysfsRoot vendor name := by
  have same : ∀ entry ∈ log sys, entry ∈ log sys ∨
      ∃ vendor, entry.file = valueFile os.sysfsRoot vendor name := fun _ member => .inl member
  unfold zenctlFwBiosSetSetting
  split
  · exact same
  · split
    · exact same
    · refine .getting same same fun vendor between looked => ?_
      obtain ⟨found, dir⟩ := fwattrFindVendor_value may looked
      dsimp only [Option.getD_some]
      rw [if_neg nonempty]
      refine .seq (· = sys) (unlockBios_quiet may noRole found dir password sys between) ?_ ?_ ?_
      · rintro _ rfl
        exact same
      · rintro _ rfl
        exact same
      intro _ changed later unchanged
      obtain rfl : sys = changed := unchanged.symm
      refine .getting same same fun path after joined => ?_
      cases settingValuePathOr_value joined
      -- the write of the value adds its entry, and clearing adds none
      have grows : ∀ final, final = (writeFileString (settingValuePath vendor name) value os sys
          after).2.1 → ∀ entry ∈ log final, entry ∈ log sys ∨
            ∃ vendor, entry.file = valueFile os.sysfsRoot vendor name := by
        rintro _ rfl entry member
        rw [writeFileString_log logs] at member
        rcases List.mem_append.mp member with old | new
        · exact .inl old
        · cases List.mem_singleton.mp new
          exact .inr ⟨vendor, rfl⟩
      refine .seq (· = (writeFileString (settingValuePath vendor name) value os sys after).2.1) rfl
        grows grows ?_
      rintro _ changed final shape
      rw [← shape] at grows
      have quiet : (clearPasswords os changed final).2.1 = changed :=
        clearPasswords_quiet may noRole changed final
      exact grows _ quiet

end Failing

/-! ## Whatever step fails -/

/-- Whichever calls fail on a machine with these directories, no password stays behind. -/
def PasswordSafe (emptied : CStr → Bool) (tree : FirmwareTree) (sysfsRoot : Option CStr)
    (name value password : CStr) : Prop :=
  ∀ (σ : Type) (os : Os σ) (log : σ → List Entry) (sys : σ) (proc : Proc),
    os.sysfsRoot = sysfsRoot → os.Logs log → os.MayShow tree → log sys = [] →
      PasswordGone emptied sysfsRoot password
        (log (zenctlFwBiosSetSetting name value (some password) os sys proc).2.1)

/-- A machine that answers writes as it is told and keeps them. -/
def loggingOs (tree : FirmwareTree) (sysfsRoot : Option CStr) (answers : CStr → CStr → Written) :
    Os (List Entry) :=
  { bareOs with
    sysfsRoot := sysfsRoot
    listDir := fun _ dir => tree.entries dir
    isDir := fun _ path => tree.isDir path
    writeFile := fun log file text =>
      (answers file text, log ++ [⟨file, text, answers file text⟩]) }

section Logging

variable (tree : FirmwareTree) (sysfsRoot : Option CStr) (answers : CStr → CStr → Written)

theorem loggingOs_logs : (loggingOs tree sysfsRoot answers).Logs id :=
  fun _ _ _ => rfl

theorem loggingOs_answers : (loggingOs tree sysfsRoot answers).Answers answers :=
  fun _ _ _ => rfl

theorem loggingOs_shows : (loggingOs tree sysfsRoot answers).Shows tree :=
  ⟨fun _ _ => rfl, fun _ _ => rfl⟩

end Logging

/-- The tree as it looks when `stat` fails on all but one role of one vendor. -/
def FirmwareTree.only (tree : FirmwareTree) (vendor role : CStr) : FirmwareTree where
  entries := tree.entries
  isDir path := path = joinPath fwattrBase vendor ∨
    path = joinPath (vendorPath vendor "authentication") role
  plain := tree.plain

theorem FirmwareTree.listed_plain
    {tree : FirmwareTree} {dir entry : CStr} (member : entry ∈ tree.listed dir) :
    '/' ∉ entry := by
  unfold listed at member
  cases found : tree.entries dir with
  | error e =>
      rw [found] at member
      cases member
  | ok names =>
      rw [found] at member
      exact tree.plain dir names found entry (List.mem_filter.mp member).1

theorem fwattrBase_join (entry : CStr) :
    joinPath fwattrBase entry = fwattrBase ++ '/' :: entry :=
  joinPath_eq (by decide) (by decide) entry

/-- A role lies more than one level below the vendors. -/
theorem role_nested (vendor role : CStr) :
    ∃ deep, joinPath (vendorPath vendor "authentication") role =
      fwattrBase ++ '/' :: (deep ++ '/' :: role) := by
  have last : (vendorPath vendor "authentication").getLast? = some 'n' :=
    joinPath_getLast (by decide)
  have nested : ∃ deep, vendorPath vendor "authentication" = fwattrBase ++ '/' :: deep := by
    unfold vendorPath
    rw [fwattrBase_join]
    unfold joinPath
    split
    · exact ⟨vendor ++ '/' :: "authentication".toList, by simp⟩
    · exact ⟨vendor ++ "authentication".toList, by simp⟩
  obtain ⟨deep, shape⟩ := nested
  refine ⟨deep, ?_⟩
  rw [joinPath_eq (by rw [shape]; simp) (by rw [last]; decide), shape]
  simp

theorem FirmwareTree.only_isDir (tree : FirmwareTree) (vendor role path : CStr) :
    (tree.only vendor role).isDir path = true ↔ path = joinPath fwattrBase vendor ∨
      path = joinPath (vendorPath vendor "authentication") role :=
  decide_eq_true_iff

theorem FirmwareTree.only_vendor
    {tree : FirmwareTree} {vendor : CStr} (member : vendor ∈ tree.listed fwattrBase)
    (role : CStr) :
    (tree.only vendor role).vendor = some vendor := by
  cases found : (tree.only vendor role).vendor with
  | none =>
      exact absurd ((tree.only_isDir vendor role _).mpr (.inl rfl))
        (List.find?_eq_none.mp found vendor member)
  | some entry =>
      have plain := listed_plain (List.mem_of_find?_eq_some found)
      unfold FirmwareTree.vendor at found
      have dir := List.find?_some found
      rcases (tree.only_isDir vendor role _).mp dir with same | deeper
      · rw [fwattrBase_join, fwattrBase_join] at same
        rw [(List.cons.inj (List.append_cancel_left same)).2]
      · obtain ⟨deep, shape⟩ := role_nested vendor role
        rw [fwattrBase_join, shape] at deeper
        rw [(List.cons.inj (List.append_cancel_left deeper)).2] at plain
        exact absurd (List.mem_append_right _ List.mem_cons_self) plain

/-- A log without a role file in it is safe. -/
theorem passwordGone_of_values
    {emptied : CStr → Bool} {sysfsRoot : Option CStr} {name password : CStr} {log : List Entry}
    (values : ∀ entry ∈ log, ∃ vendor, entry.file = valueFile sysfsRoot vendor name) :
    PasswordGone emptied sysfsRoot password log := by
  have noRole : ∀ entry ∈ log, ¬ IsRoleFile sysfsRoot entry.file := by
    intro entry member
    obtain ⟨vendor, file⟩ := values entry member
    rw [file]
    exact valueFile_not_role sysfsRoot vendor name
  constructor
  · intro file role before after shape
    exact absurd role (noRole ⟨file, password, .done⟩ (by rw [shape]; simp))
  · intro entry member role _
    exact absurd role (noRole entry member)

theorem roleFiles_are_roles (tree : FirmwareTree) (sysfsRoot : Option CStr) (vendor : CStr) :
    ∀ file ∈ tree.roleFiles sysfsRoot vendor, IsRoleFile sysfsRoot file := by
  intro file member
  obtain ⟨role, -, rfl⟩ := List.mem_map.mp member
  exact ⟨vendor, role, rfl⟩

/-- With memory left and directories that answer, the answers decide what stays behind. -/
theorem passwordGone_answers
    {tree : FirmwareTree} {os : Os σ} {log : σ → List Entry} {answers : CStr → CStr → Written}
    {sys : σ} {proc : Proc}
    (logs : os.Logs log)
    (answer : os.Answers answers)
    (memory : proc.allocations = [])
    (shows : os.Shows tree)
    (start : log sys = [])
    {vendor : CStr} (found : tree.vendor = some vendor)
    {name : CStr} (named : name ≠ []) (plain : '/' ∉ name)
    (value : CStr) {password : CStr} (nonempty : password ≠ []) (emptied : CStr → Bool) :
    PasswordGone emptied os.sysfsRoot password
        (log (zenctlFwBiosSetSetting name value (some password) os sys proc).2.1) ↔
      LeavesNothing emptied answers (tree.roleFiles os.sysfsRoot vendor)
        (valueFile os.sysfsRoot vendor name) value password := by
  rw [zenctlFwBiosSetSetting_log logs answer memory shows found named plain value nonempty, start,
    List.nil_append]
  exact passwordGone_iff (valueFile_not_role os.sysfsRoot vendor name) nonempty
    (roleFiles_are_roles tree os.sysfsRoot vendor) emptied

/-- A role that takes the password keeps it when the value is refused. -/
theorem passwordSafe_noRole
    {emptied : CStr → Bool} {tree : FirmwareTree} {sysfsRoot : Option CStr}
    {name value password : CStr} (nonempty : password ≠ [])
    (safe : PasswordSafe emptied tree sysfsRoot name value password)
    (named : name ≠ []) (plain : '/' ∉ name) :
    ¬ tree.HasRole := by
  rintro ⟨vendor, role, member, vendorDir, isRole⟩
  obtain ⟨listed, roleDir⟩ := List.mem_filter.mp isRole
  -- only that role answers, it takes the password, and everything else is refused
  let file := passwordFile sysfsRoot (vendorPath vendor "authentication") role
  let answers : CStr → CStr → Written := fun other text =>
    if other = file ∧ text = password then .done else .openFailed Errno.eperm
  have may : (loggingOs (tree.only vendor role) sysfsRoot answers).MayShow tree := by
    refine ⟨fun _ _ _ listing => listing, fun _ path dir => ?_⟩
    rcases (tree.only_isDir vendor role path).mp dir with rfl | rfl
    · exact vendorDir
    · exact roleDir
  have gone := safe (List Entry) _ id [] freshProc rfl (loggingOs_logs _ _ _) may rfl
  have nothing := (passwordGone_answers (loggingOs_logs _ _ _) (loggingOs_answers _ _ _) rfl
    (loggingOs_shows _ _ _) rfl (tree.only_vendor member role) named plain value nonempty
    emptied).mp gone
  have refused : answers (valueFile sysfsRoot vendor name) value ≠ .done := by
    have apart : valueFile sysfsRoot vendor name ≠ file := by
      intro same
      exact valueFile_not_role sysfsRoot vendor name ⟨vendor, role, same⟩
    rw [show answers (valueFile sysfsRoot vendor name) value = _ from if_neg fun both =>
      apart both.1]
    nofun
  have isFile : file ∈ (tree.only vendor role).roleFiles sysfsRoot vendor :=
    List.mem_map_of_mem (List.mem_filter.mpr ⟨listed, (tree.only_isDir _ _ _).mpr (.inr rfl)⟩)
  have taken : (taker answers password
      ((tree.only vendor role).roleFiles sysfsRoot vendor)).isSome :=
    List.find?_isSome.mpr ⟨file, isFile, by simp [answers]⟩
  obtain ⟨first, taken⟩ := Option.isSome_iff_exists.mp taken
  exact refused (nothing.taken first taken).1

/--
Whatever step fails, no password stays behind and no other role is touched, exactly
when there is no role to begin with.  In a call whose memory and directories hold,
the answers to its writes decide, and the files that opening empties.
-/
theorem biosPassword_gone_iff
    (emptied : CStr → Bool) (tree : FirmwareTree) (sysfsRoot : Option CStr) (name value : CStr)
    {password : CStr} (nonempty : password ≠ []) :
    (PasswordSafe emptied tree sysfsRoot name value password ↔
      name = [] ∨ '/' ∈ name ∨ ¬ tree.HasRole) ∧
    ∀ {σ : Type} {os : Os σ} {log : σ → List Entry} {answers : CStr → CStr → Written} {sys : σ}
      {proc : Proc} {vendor : CStr},
      os.sysfsRoot = sysfsRoot → os.Logs log → os.Answers answers → os.Shows tree →
      proc.allocations = [] → log sys = [] → tree.vendor = some vendor → name ≠ [] → '/' ∉ name →
        (PasswordGone emptied sysfsRoot password
            (log (zenctlFwBiosSetSetting name value (some password) os sys proc).2.1) ↔
          LeavesNothing emptied answers (tree.roleFiles sysfsRoot vendor)
            (valueFile sysfsRoot vendor name) value password) := by
  refine ⟨⟨?_, ?_⟩, ?_⟩
  · intro safe
    by_cases named : name = []
    · exact .inl named
    by_cases plain : '/' ∈ name
    · exact .inr (.inl plain)
    · exact .inr (.inr (passwordSafe_noRole nonempty safe named plain))
  · rintro condition σ os log sys proc rfl logs may start
    have refused : name = [] ∨ '/' ∈ name →
        (zenctlFwBiosSetSetting name value (some password) os sys proc).2.1 = sys := by
      intro bad
      unfold zenctlFwBiosSetSetting
      split
      · rfl
      · next named => rw [if_pos (bad.resolve_left named)]; rfl
    have values : ∀ entry ∈ log (zenctlFwBiosSetSetting name value (some password) os sys proc).2.1,
        ∃ vendor, entry.file = valueFile os.sysfsRoot vendor name := by
      intro entry member
      rcases or_assoc.mpr condition with bad | noRole
      · rw [refused bad, start] at member
        cases member
      · have quiet := zenctlFwBiosSetSetting_quiet may logs noRole name value nonempty sys proc
        rcases quiet entry member with old | new
        · rw [start] at old
          cases old
        · exact new
    exact passwordGone_of_values values
  · rintro σ os log answers sys proc vendor rfl logs answer shows memory start found named plain
    exact passwordGone_answers logs answer memory shows start found named plain value nonempty
      emptied

/-! ## One vendor -/

/-- A vendor with two roles. -/
def twoRoles : FirmwareTree where
  entries dir :=
    if dir = fwattrBase then .ok ["dell"]
    else if dir = vendorPath "dell" "authentication" then .ok ["Admin", "System"]
    else .error Errno.enoent
  isDir path := path ∈ [joinPath fwattrBase "dell",
    joinPath (vendorPath "dell" "authentication") "Admin",
    joinPath (vendorPath "dell" "authentication") "System"]
  plain := by
    intro dir names found
    split at found
    · cases found
      decide
    · split at found
      · cases found
        decide
      · cases found

/-- Two roles of which the first takes the password and is the only one that can be cleared. -/
def firstRoleAnswers (sysfsRoot : Option CStr) (file text : CStr) : Written :=
  if file = passwordFile sysfsRoot (vendorPath "dell" "authentication") "System" then
    .openFailed Errno.eacces
  else if file = valueFile sysfsRoot "dell" "SecureBoot" ∧ text = "Bogus".toList then
    .closeFailed Errno.einval
  else .done

/-- In a tree of regular files the empty text clears what the first role took. -/
theorem biosPassword_gone_taken :
    PasswordGone (fun _ => true) (some "/mock") "secret"
      (zenctlFwBiosSetSetting "SecureBoot" "Enabled" (some "secret")
        (loggingOs twoRoles (some "/mock") (firstRoleAnswers (some "/mock"))) [] freshProc).2.1 :=
  ((biosPassword_gone_iff _ twoRoles (some "/mock") "SecureBoot" "Enabled" (by decide)).2 rfl
    (loggingOs_logs _ _ _) (loggingOs_answers _ _ _) (loggingOs_shows _ _ _) rfl rfl
    (show twoRoles.vendor = some "dell".toList by decide) (by decide) (by decide)).mpr
      ⟨by decide, by decide, by decide⟩

/--
A refused value leaves the password where it was written.  So does a value that is
taken, where the files are attributes: no byte of the empty text reaches them.
-/
theorem biosPassword_stays :
    ((zenctlFwBiosSetSetting "SecureBoot" "Bogus" (some "secret")
        (loggingOs twoRoles none (firstRoleAnswers none)) [] freshProc).2.1 =
      [⟨passwordFile none (vendorPath "dell" "authentication") "Admin", "secret", .done⟩,
        ⟨valueFile none "dell" "SecureBoot", "Bogus", .closeFailed Errno.einval⟩] ∧
    ∀ emptied, ¬ PasswordGone emptied none "secret"
      (zenctlFwBiosSetSetting "SecureBoot" "Bogus" (some "secret")
        (loggingOs twoRoles none (firstRoleAnswers none)) [] freshProc).2.1) ∧
    (zenctlFwBiosSetSetting "SecureBoot" "Enabled" (some "secret")
        (loggingOs twoRoles none (firstRoleAnswers none)) [] freshProc).2.1 =
      [⟨passwordFile none (vendorPath "dell" "authentication") "Admin", "secret", .done⟩,
        ⟨valueFile none "dell" "SecureBoot", "Enabled", .done⟩,
        ⟨passwordFile none (vendorPath "dell" "authentication") "Admin", "", .done⟩,
        ⟨passwordFile none (vendorPath "dell" "authentication") "System", "",
          .openFailed Errno.eacces⟩] ∧
    ¬ PasswordGone (fun _ => false) none "secret"
      (zenctlFwBiosSetSetting "SecureBoot" "Enabled" (some "secret")
        (loggingOs twoRoles none (firstRoleAnswers none)) [] freshProc).2.1 := by
  have refused : (zenctlFwBiosSetSetting "SecureBoot" "Bogus" (some "secret")
        (loggingOs twoRoles none (firstRoleAnswers none)) [] freshProc).2.1 =
      [⟨passwordFile none (vendorPath "dell" "authentication") "Admin", "secret", .done⟩,
        ⟨valueFile none "dell" "SecureBoot", "Bogus", .closeFailed Errno.einval⟩] := by
    decide +kernel
  have taken : (zenctlFwBiosSetSetting "SecureBoot" "Enabled" (some "secret")
        (loggingOs twoRoles none (firstRoleAnswers none)) [] freshProc).2.1 =
      [⟨passwordFile none (vendorPath "dell" "authentication") "Admin", "secret", .done⟩,
        ⟨valueFile none "dell" "SecureBoot", "Enabled", .done⟩,
        ⟨passwordFile none (vendorPath "dell" "authentication") "Admin", "", .done⟩,
        ⟨passwordFile none (vendorPath "dell" "authentication") "System", "",
          .openFailed Errno.eacces⟩] := by
    decide +kernel
  refine ⟨⟨refused, fun emptied gone => ?_⟩, taken, fun gone => ?_⟩
  · rw [refused] at gone
    obtain ⟨answer, member, -⟩ := gone.cleared _ ⟨"dell", "Admin", rfl⟩ [] _ rfl
    have text : [] = "Bogus".toList := congrArg Entry.text (List.mem_singleton.mp member)
    revert text
    decide
  · rw [taken] at gone
    obtain ⟨answer, member, clears⟩ := gone.cleared _ ⟨"dell", "Admin", rfl⟩ [] _ rfl
    -- the only empty text for that file was delivered, and an attribute does not see it
    have delivered : answer = .done := by
      revert member
      simp only [List.mem_cons, List.not_mem_nil, or_false, Entry.mk.injEq]
      rintro (⟨-, text, -⟩ | ⟨-, -, answer⟩ | ⟨file, -, -⟩)
      · exact absurd text (by decide)
      · exact answer
      · exact absurd file (by decide)
    cases clears delivered

end Zenctl
