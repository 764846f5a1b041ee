import Ngfw.Lib.GoMap
import Ngfw.Lib.Threads
import Ngfw.Domain.Session

/-!
# Users and tokens

The user table and the token table of the management API, under one lock. A Login reads the user in one critical
section and stores the token in another; in between it verifies the password without the lock.
-/

namespace Ngfw.Auth
open Lib Domain

inductive Role
  | admin
  | operator
  | viewer
  | other (name : String)
  deriving DecidableEq

def validRole : Role → Bool
  | .other _ => false
  | _ => true

structure User where
  id : String := ""
  username : String := ""
  role : Role := .other ""
  passwordHash : String := ""
  enabled : Bool := false
  deriving DecidableEq

structure Session where
  user : User
  expiresAt : Time
  deriving DecidableEq

/-- argon2id: the encoded hash of a password under a salt, and whether a password fits an encoded hash. -/
class Passwords where
  hash : String → String → String
  verify : String → String → Bool

structure Store where
  users : GoMap String User := ∅
  tokens : GoMap String Session := ∅
  ttl : Int

def newStore (ttl : Int) : Store :=
  { ttl := if ttl ≤ 0 then 8 * 60 * 60 * 1000000000 else ttl }

namespace Store

def find (s : Store) (id : String) : String × User :=
  match s.users.entries.find? fun entry => entry.2.id = id with
  | some entry => (entry.1, entry.2)
  | none => ("", {})

def enabledAdminsLocked (s : Store) : Nat :=
  (GoMap.values s.users).countP fun user => user.enabled && user.role = .admin

def invalidateUserLocked (s : Store) (id : String) : Store :=
  { s with tokens := GoMap.filter (fun _ session => session.user.id ≠ id) s.tokens }

def addUser (s : Store) (id username hash : String) (role : Role) : Except String Store :=
  if (s.users.lookup username).isSome then .error "username already exists"
  else if ∃ user ∈ GoMap.values s.users, user.id = id then .error "user id already exists"
  else .ok { s with users := s.users.insert username ⟨id, username, role, hash, true⟩ }

def updateUser (s : Store) (id username newHash : String) (role : Role) (enabled : Bool) : Except String Store :=
  let oldKey := (s.find id).1
  let current := (s.find id).2
  if oldKey = "" then .error "user not found"
  else if (s.users.lookup username).any (·.id ≠ id) then .error "username already exists"
  else if current.role = .admin ∧ current.enabled ∧ (role ≠ .admin ∨ !enabled) ∧
      s.enabledAdminsLocked ≤ 1 then
    .error "cannot disable or demote the last enabled admin"
  else
    let newHash := if newHash = "" then current.passwordHash else newHash
    .ok ({ s with users := (s.users.erase oldKey).insert username ⟨id, username, role, newHash, enabled⟩ }
      |>.invalidateUserLocked id)

def deleteUser (s : Store) (id : String) : Except String Store :=
  let key := (s.find id).1
  let current := (s.find id).2
  if key = "" then .error "user not found"
  else if current.role = .admin ∧ current.enabled ∧ s.enabledAdminsLocked ≤ 1 then
    .error "cannot delete the last enabled admin"
  else .ok ({ s with users := s.users.erase key }.invalidateUserLocked id)

def validate (s : Store) (now : Time) (token : String) : Option User × Store :=
  match s.tokens.lookup token with
  | none => (none, s)
  | some v => if v.expiresAt < now then (none, { s with tokens := s.tokens.erase token }) else (some v.user, s)

def logout (s : Store) (token : String) : Store :=
  { s with tokens := s.tokens.erase token }

def putToken (s : Store) (now : Time) (user : User) (token : String) : Store :=
  { s with tokens := s.tokens.insert token ⟨user, now + s.ttl⟩ }

end Store

/-! ## Calls and their critical sections -/

inductive StoreCall
  | addUser (id username password : String) (role : Role) (salt : Except String String)
  | login (username password : String) (token : Except String String)
  | validate (token : String)
  | logout (token : String)
  | updateUser (id username password : String) (role : Role) (enabled : Bool) (salt : Except String String)
  | deleteUser (id : String)

inductive StoreSection
  | addUser (id username hash : String) (role : Role)
  | findUser (username password : String) (token : Except String String)
  | putToken (user : User) (token : String)
  | validate (token : String)
  | logout (token : String)
  | updateUser (id username newHash : String) (role : Role) (enabled : Bool)
  | deleteUser (id : String)
  deriving DecidableEq

section
variable [Passwords]

def hashPassword (salt : Except String String) (password : String) : Except String String :=
  salt.map (Passwords.hash password)

def StoreCall.sections : StoreCall → List StoreSection
  | .addUser id username password role salt =>
    if id = "" ∨ username = "" ∨ password = "" then []
    else if !validRole role then []
    else match hashPassword salt password with
      | .error _ => []
      | .ok hash => [.addUser id username hash role]
  | .login username password token => [.findUser username password token]
  | .validate token => [.validate token]
  | .logout token => [.logout token]
  | .updateUser id username password role enabled salt =>
    if id = "" ∨ username = "" then []
    else if !validRole role then []
    else if password = "" then [.updateUser id username "" role enabled]
    else match hashPassword salt password with
      | .error _ => []
      | .ok hash => [.updateUser id username hash role enabled]
  | .deleteUser id => [.deleteUser id]

def StoreSection.exec (step : StoreSection) (now : Time) (s : Store) : Store × List StoreSection :=
  match step with
  | .addUser id username hash role => ((s.addUser id username hash role).toOption.getD s, [])
  | .findUser username password token =>
    match s.users.lookup username with
    | none => (s, [])
    | some user =>
      if !user.enabled || !Passwords.verify user.passwordHash password then (s, [])
      else match token with
        | .error _ => (s, [])
        | .ok token => (s, [.putToken user token])
  | .putToken user token => (s.putToken now user token, [])
  | .validate token => ((s.validate now token).2, [])
  | .logout token => (s.logout token, [])
  | .updateUser id username newHash role enabled =>
    ((s.updateUser id username newHash role enabled).toOption.getD s, [])
  | .deleteUser id => ((s.deleteUser id).toOption.getD s, [])

abbrev StoreMove := Move StoreCall Time

abbrev StoreThreads := Threads Store StoreSection

def StoreThreads.step (t : StoreThreads) (move : StoreMove) : StoreThreads :=
  Threads.step StoreCall.sections StoreSection.exec t move

end

end Ngfw.Auth
