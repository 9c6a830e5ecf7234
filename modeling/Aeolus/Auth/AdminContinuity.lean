/-
# Aeolus.Auth.AdminContinuity — one setup, and always an administrator after it

Every guard that counts administrators stands in the same segment as the write it
guards: `setupAdmin` counts again in the transaction that inserts, and demotion and
deletion count right before they write.  So no interleaving can bring a write between
a count and its use, and each segment keeps `HasAdmin` on its own.
-/
import Aeolus.Auth.AuthRequests

namespace Aeolus.Auth

open Aeolus.Core Aeolus.Theory
open Handler

def HasAdmin (db : AuthDb) : Prop :=
  ∃ id user, db.users.get id = some user ∧ user.role = .admin

/-! ## Counting -/

theorem hasAdmin_iff {db : AuthDb} : HasAdmin db ↔ 0 < adminCount db := by
  rw [adminCount, List.length_pos_iff_exists_mem]
  constructor
  · rintro ⟨id, user, found, admin⟩
    exact ⟨user, List.mem_filter.mpr ⟨OrderedMap.mem_values.mpr ⟨id, found⟩, by simpa using admin⟩⟩
  · rintro ⟨user, mem⟩
    obtain ⟨stored, admin⟩ := List.mem_filter.mp mem
    obtain ⟨id, found⟩ := OrderedMap.mem_values.mp stored
    exact ⟨id, user, found, by simpa using admin⟩

/-- Of two administrators one has another id. -/
theorem other_admin {db : AuthDb} (two : 1 < adminCount db) (id : String) :
    ∃ id' user, id' ≠ id ∧ db.users.get id' = some user ∧ user.role = .admin := by
  by_contra none_other
  push Not at none_other
  have count : adminCount db = (db.users.entries.filter fun e => e.2.role = .admin).length := by
    rw [adminCount, OrderedMap.values, List.filter_map, List.length_map]
    rfl
  have nodup : ((db.users.entries.filter fun e => e.2.role = .admin).map Prod.fst).Nodup :=
    db.users.nodup.sublist (List.Sublist.map _ List.filter_sublist)
  have same : ∀ key ∈ (db.users.entries.filter fun e => e.2.role = .admin).map Prod.fst,
      key = id := by
    intro key mem
    obtain ⟨e, kept, rfl⟩ := List.mem_map.mp mem
    obtain ⟨stored, admin⟩ := List.mem_filter.mp kept
    by_contra different
    exact none_other e.1 e.2 different (OrderedMap.mem_entries.mp stored) (by simpa using admin)
  rw [List.eq_replicate_of_mem same, List.nodup_replicate, List.length_map, ← count] at nodup
  omega

/-! ## Statements -/

/-- A statement that does not look at roles. -/
theorem hasAdmin_of_users_eq {db db' : AuthDb} (same : db'.users = db.users)
    (admin : HasAdmin db) : HasAdmin db' := by
  rw [HasAdmin, same]
  exact admin

/-- An administrator under another key stays. -/
theorem hasAdmin_set {db : AuthDb} {key : String} {row : User}
    (kept : row.role = .admin ∨
      ∃ id user, id ≠ key ∧ db.users.get id = some user ∧ user.role = .admin) :
    HasAdmin { db with users := db.users.set key row } := by
  rcases kept with admin | ⟨id, user, ne, found, admin⟩
  · exact ⟨key, row, OrderedMap.get_set_self _ _ _, admin⟩
  · exact ⟨id, user, (OrderedMap.get_set_of_ne _ _ ne).trans found, admin⟩

/-- A row whose administrator stays one. -/
theorem hasAdmin_update {db : AuthDb} {key : String} {user row : User}
    (found : db.users.get key = some user) (keeps : user.role = .admin → row.role = .admin)
    (admin : HasAdmin db) : HasAdmin { db with users := db.users.set key row } := by
  obtain ⟨id, other, there, role⟩ := admin
  by_cases here : id = key
  · subst here
    obtain rfl : user = other := Option.some.inj (found.symm.trans there)
    exact hasAdmin_set (Or.inl (keeps role))
  · exact hasAdmin_set (Or.inr ⟨id, other, here, there, role⟩)

theorem preserves_insertUser (user : User) : Preserves HasAdmin (insertUser user) := by
  intro db admin
  unfold insertUser
  split
  · exact admin
  · split
    · exact admin
    · split
      · exact admin
      · rename_i taken _ _
        obtain ⟨id, other, there, role⟩ := admin
        refine hasAdmin_set (Or.inr ⟨id, other, ?_, there, role⟩)
        rintro rfl
        rw [there] at taken
        exact taken rfl

theorem preserves_updateUserRow (id : String) {change : User → User}
    (keeps : ∀ user, user.role = .admin → (change user).role = .admin) :
    Preserves HasAdmin (updateUserRow id change) := by
  refine preserves_modify fun db admin => ?_
  cases found : db.users.get id with
  | none => exact admin
  | some user => exact hasAdmin_update found (keeps user) admin

theorem preserves_updateGroup (id : String) (groupId : Option String) :
    Preserves HasAdmin (updateGroup id groupId) := by
  intro db admin
  unfold updateGroup
  cases found : db.users.get id with
  | none => exact admin
  | some user =>
      simp only
      split
      · exact admin
      · exact hasAdmin_update found (fun role => role) admin

theorem preserves_writePassword (id passwordHash : String) (verified : Option String) :
    Preserves HasAdmin (writePassword id passwordHash verified) := by
  refine Preserves.bind (preserves_modify fun db admin => ?_) fun _ =>
    preserves_modify fun db admin => hasAdmin_of_users_eq rfl admin
  cases found : db.users.get id with
  | none => exact admin
  | some user =>
      have written : HasAdmin { db with users := db.users.set id { user with passwordHash } } :=
        hasAdmin_update found (fun role => role) admin
      exact hasAdmin_of_users_eq rfl written

theorem preserves_insertRefreshToken (row : RefreshTokenRow) :
    Preserves HasAdmin (insertRefreshToken row) := by
  intro db admin
  unfold insertRefreshToken
  split
  · exact admin
  · split
    · exact admin
    · split
      · exact admin
      · exact hasAdmin_of_users_eq rfl admin

theorem preserves_generateRefreshToken (crypto : AuthCrypto) (draw : Draw) (userId : String)
    (presented : Option String) :
    Preserves HasAdmin (generateRefreshToken crypto draw userId presented) := by
  refine Preserves.bind (readOnly_asks _).preserves fun policy => ?_
  exact Preserves.bind (preserves_insertRefreshToken _) fun _ => preserves_pure _

/-- The guard has counted two administrators when it returns. -/
theorem assertNotLastAdmin_ok {db db' : AuthDb} (returned : assertNotLastAdmin db = (.ok (), db')) :
    db' = db ∧ 1 < adminCount db := by
  rw [assertNotLastAdmin, bind_apply, asks_apply] at returned
  simp only at returned
  split at returned
  · cases returned
  · rename_i many
    cases returned
    exact ⟨rfl, by omega⟩

/-! ## Segments -/

/-- A write that only the last administrator must not suffer, behind its guard. -/
theorem preserves_guarded {α : Type} {write : AuthStatement α}
    (survives : ∀ db, 1 < adminCount db → HasAdmin (write db).2) :
    Preserves HasAdmin (assertNotLastAdmin >>= fun _ => write) := by
  refine Preserves.bind_of readOnly_assertNotLastAdmin.preserves fun db _ db' passed _ => ?_
  obtain ⟨rfl, two⟩ := assertNotLastAdmin_ok passed
  exact survives db' two

theorem preserves_changeRole (id : String) (existing : User) (role : Option Role) :
    Preserves HasAdmin (changeRole id existing role) := by
  cases role with
  | none => exact preserves_pure _
  | some role =>
      refine Preserves.ite (fun changes => ?_) fun _ => preserves_pure _
      by_cases demotion : existing.role = .admin ∧ role = .user
      · simp only [if_pos demotion]
        refine preserves_guarded fun db two => ?_
        obtain ⟨other, user, ne, there, admin⟩ := other_admin two id
        cases found : db.users.get id with
        | none =>
            simp only [updateUserRow, modify_apply, found]
            exact ⟨other, user, there, admin⟩
        | some row =>
            simp only [updateUserRow, modify_apply, found]
            exact hasAdmin_set (Or.inr ⟨other, user, ne, there, admin⟩)
      · simp only [if_neg demotion]
        -- a change that is no demotion makes an administrator
        have promotion : role = .admin := by
          cases role with
          | admin => rfl
          | user =>
              cases was : existing.role with
              | admin => exact absurd ⟨was, rfl⟩ demotion
              | user => exact absurd was.symm changes
        have promoted : Preserves HasAdmin (updateUserRow id fun user => { user with role }) :=
          preserves_updateUserRow id fun _ _ => promotion
        exact promoted

theorem preserves_changePolicy (id : String) (existing : User) (updates : UserUpdates) :
    Preserves HasAdmin (changePolicy id existing updates) := by
  refine Preserves.ite (fun _ => ?_) fun _ => preserves_pure _
  exact Preserves.bind (readOnly_check _).preserves fun _ =>
    preserves_updateUserRow id fun _ admin => admin

/-- Without an administrator under this id, its row can go. -/
theorem hasAdmin_delete {db : AuthDb} {id other : String} {user : User} (ne : other ≠ id)
    (there : db.users.get other = some user) (admin : user.role = .admin) :
    HasAdmin (deleteUserRow id db).2 :=
  ⟨other, user, (OrderedMap.get_delete_of_ne _ ne).trans there, admin⟩

theorem preserves_deleteUser (id : String) : Preserves HasAdmin (deleteUser id) := by
  refine Preserves.bind_of (readOnly_asks _).preserves fun db found db' looked admin => ?_
  cases looked
  cases found : getUser id db with
  | none => exact admin
  | some user =>
      by_cases role : user.role = .admin
      · simp only [if_pos role]
        refine preserves_guarded (fun db two => ?_) db admin
        obtain ⟨other, row, ne, there, admin⟩ := other_admin two id
        exact hasAdmin_delete ne there admin
      · simp only [if_neg role]
        obtain ⟨other, row, there, isAdmin⟩ := admin
        have ne : other ≠ id := by
          rintro rfl
          obtain rfl : row = user := Option.some.inj (there.symm.trans found)
          exact role isAdmin
        exact hasAdmin_delete ne there isAdmin

theorem stable_hasAdmin : Stable HasAdmin where
  insertUser := preserves_insertUser
  changeRole := preserves_changeRole
  changePolicy := preserves_changePolicy
  updateGroup := preserves_updateGroup
  deleteUser := preserves_deleteUser
  deleteRefreshTokens _ := preserves_modify fun _ admin => hasAdmin_of_users_eq rfl admin
  touchTokens _ _ := preserves_modify fun _ admin => hasAdmin_of_users_eq rfl admin

theorem preserves_resumed (crypto : AuthCrypto) (draw : Draw) (job : Suspended) :
    Preserves HasAdmin (job.segment crypto draw) := by
  cases job with
  | setupHash username password =>
      refine Preserves.bind (stable_hasAdmin.insertFirstAdmin _) fun _ => ?_
      exact Preserves.bind (preserves_generateRefreshToken _ _ _ _) fun _ => preserves_pure _
  | createHash row password => exact stable_hasAdmin.createUserHashed crypto draw row password
  | updateHash id password groupId =>
      exact Preserves.bind (preserves_writePassword _ _ _) fun _ =>
        stable_hasAdmin.finishUpdate id groupId
  | loginUnknown => exact preserves_throw _
  | loginCompare user password =>
      refine Preserves.ite (fun _ => preserves_throw _) fun _ => ?_
      exact Preserves.bind (preserves_generateRefreshToken _ _ _ _) fun _ => preserves_pure _
  | changeCompare userId user currentPassword newPassword =>
      refine Preserves.ite (fun _ => preserves_throw _) fun _ => ?_
      exact Preserves.bind (readOnly_check _).preserves fun _ => preserves_pure _
  | changeHash userId user currentPassword newPassword =>
      exact Preserves.bind (preserves_writePassword _ _ _) fun _ => preserves_pure _

/-! ## Runs -/

/-- A setup that returns found no administrator and leaves one. -/
theorem setupAdminHashed_ok {crypto : AuthCrypto} {draw : Draw} {username password : String}
    {db db' : AuthDb} {progress : Progress}
    (returned : setupAdminHashed crypto draw username password db = (.ok progress, db')) :
    ¬ HasAdmin db ∧ HasAdmin db' := by
  obtain ⟨_, mid, inserted, rest⟩ := bind_ok returned
  obtain ⟨nobody, created⟩ := insertFirstAdmin_ok inserted
  have admin : HasAdmin mid := by
    rw [created]
    exact hasAdmin_set (Or.inl rfl)
  refine ⟨fun there => ?_, ?_⟩
  · have some_admin := hasAdmin_iff.mp there
    omega
  · obtain ⟨_, last, issued, done⟩ := bind_ok rest
    cases done
    have kept := preserves_generateRefreshToken crypto draw draw.uuid (some password) mid admin
    rw [issued] at kept
    exact kept

/-- One setup at most, and an administrator since. -/
def SetUpOnce (s : AuthState) : Prop := s.setups = 0 ∨ s.setups = 1 ∧ HasAdmin s.db

theorem advance_hasAdmin {s : AuthState} {isSetup : Bool} {segment : Segment}
    (preserves : Preserves HasAdmin segment) (admin : HasAdmin s.db) :
    HasAdmin (s.advance isSetup segment).db := by
  have after := preserves s.db admin
  unfold AuthState.advance
  split <;> (rename_i outcome; rw [outcome] at after; exact after)

theorem advance_setUpOnce {s : AuthState} {isSetup : Bool} {segment : Segment}
    (preserves : Preserves HasAdmin segment)
    (setup : isSetup = true → ∀ progress db', segment s.db = (.ok progress, db') →
      ¬ HasAdmin s.db ∧ HasAdmin db')
    (once : SetUpOnce s) : SetUpOnce (s.advance isSetup segment) := by
  have kept : HasAdmin s.db → HasAdmin (s.advance isSetup segment).db := advance_hasAdmin preserves
  unfold AuthState.advance at kept ⊢
  split <;> rename_i outcome <;> rw [outcome] at kept
  · exact once.imp id fun ⟨one, admin⟩ => ⟨one, kept admin⟩
  · cases isSetup with
    | false => exact once.imp id fun ⟨one, admin⟩ => ⟨one, kept admin⟩
    | true =>
        obtain ⟨nobody, admin⟩ := setup rfl _ _ outcome
        rcases once with zero | ⟨_, already⟩
        · exact Or.inr ⟨congrArg (· + 1) zero, admin⟩
        · exact absurd already nobody
  · exact once.imp id fun ⟨one, admin⟩ => ⟨one, kept admin⟩

theorem step_hasAdmin (crypto : AuthCrypto) (s : AuthState) (e : AuthEvent)
    (admin : HasAdmin s.db) : HasAdmin (s.step crypto e).db := by
  cases e with
  | arrives request draw => exact advance_hasAdmin (stable_hasAdmin.request crypto draw request) admin
  | resumes index draw =>
      simp only [AuthState.step]
      split
      · exact admin
      · exact advance_hasAdmin (preserves_resumed crypto draw _) admin

theorem step_setUpOnce (crypto : AuthCrypto) (s : AuthState) (e : AuthEvent)
    (once : SetUpOnce s) : SetUpOnce (s.step crypto e) := by
  cases e with
  | arrives request draw =>
      exact advance_setUpOnce (stable_hasAdmin.request crypto draw request) (fun no => by cases no) once
  | resumes index draw =>
      simp only [AuthState.step]
      split
      · exact once
      · rename_i job _
        refine advance_setUpOnce (preserves_resumed crypto draw job) (fun isSetup => ?_) once
        intro progress db' returned
        cases job with
        | setupHash username password => exact setupAdminHashed_ok returned
        | _ => cases isSetup

/-- **Continuity.**  In every interleaving `setupAdmin` returns at most once, and once an
administrator is there, one is there in every later state. -/
theorem admin_continuity (crypto : AuthCrypto) (db : AuthDb) :
    (∀ events, (run (AuthState.step crypto) ⟨db, [], 0⟩ events).setups ≤ 1) ∧
      ∀ before after, HasAdmin (run (AuthState.step crypto) ⟨db, [], 0⟩ before).db →
        HasAdmin (run (AuthState.step crypto) ⟨db, [], 0⟩ (before ++ after)).db := by
  constructor
  · intro events
    have once := run_invariant (step_setUpOnce crypto) (s := ⟨db, [], 0⟩) (Or.inl rfl) events
    rcases once with zero | ⟨one, _⟩ <;> omega
  · intro before after admin
    rw [run_append]
    have keeps : ∀ s, HasAdmin (AuthState.db s) →
        HasAdmin (run (AuthState.step crypto) s after).db :=
      fun s start => run_invariant (step_hasAdmin crypto) start after
    exact keeps _ admin

/-- Two setups that both passed the first look: one of them returns, and its
administrator stays when the only other one is demoted and deleted. -/
theorem admin_continuity_two_setups :
    let draw := fun id : String => (⟨id, id, id, "", 0⟩ : Draw)
    let setups : List AuthEvent :=
      [.arrives (.setupAdmin "ann" "annpassword") (draw "1"),
       .arrives (.setupAdmin "bob" "bobpassword") (draw "2"),
       .resumes 0 (draw "3"), .resumes 0 (draw "4")]
    let later : List AuthEvent :=
      [.arrives (.updateUser "3" { role := some .user }) (draw "5"),
       .arrives (.deleteUser "3") (draw "6")]
    (run (AuthState.step plainCrypto) ⟨{}, [], 0⟩ setups).setups = 1 ∧
      HasAdmin (run (AuthState.step plainCrypto) ⟨{}, [], 0⟩ (setups ++ later)).db := by
  intro draw setups later
  refine ⟨by decide, (admin_continuity plainCrypto {}).2 setups later ?_⟩
  exact hasAdmin_iff.mpr (by decide)

end Aeolus.Auth
