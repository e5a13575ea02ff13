import TodoServer.Crypto.Sha256
import TodoServer.Storage.Migration
import TodoServer.Storage.Pool

/-!
# Opening a database

A pool is opened on a database that has been brought to the current schema first. The schema of a
new database is one transaction, and so is each step from one version to the next: what earlier
steps changed stays when a later one fails. The checksums in the history of the migrations are
SHA-256.
-/

namespace TodoServer.Storage.Pool

/-- A transaction on the database of a pool. What its statements changed is kept if all of them
succeed, and undone otherwise. -/
def transact (p : Pool) (work : Database → Except StorageError Database) :
    Except StorageError Unit × Pool :=
  if p.isOpen then
    match work p.database with
    | .ok database => (.ok (), { p with database })
    | .error e => (.error e, p)
  else (.error .poolClosed, p)

/-- Takes `count` steps, the first one to a version, each in a transaction of its own. -/
def migrateFrom (checksum : Migration.Checksum) (now : Int) :
    Nat → Int → Pool → Except StorageError Unit × Pool
  | 0, _, p => (.ok (), p)
  | count + 1, version, p =>
    match p.transact (Migration.applyVersion checksum now version) with
    | (.ok (), p) => migrateFrom checksum now count (version + 1) p
    | (.error e, p) => (.error e, p)

/-- Brings the database of a pool to the current version of the schema. -/
def migrate (checksum : Migration.Checksum) (now : Int) (p : Pool) :
    Except StorageError Unit × Pool :=
  if p.isOpen then
    match p.database.versions with
    | none => p.transact (Migration.initialSchema checksum now)
    | some versions =>
      match Migration.recordedVersion versions with
      | .ok current =>
        migrateFrom checksum now (schemaVersion - current).toNat (current + 1) p
      | .error e => (.error e, p)
  else (.error .poolClosed, p)

/-- A pool on a database, which is migrated at a time. -/
def opened (now : Int) (database : Database) : Except StorageError Pool :=
  match migrate Crypto.sha256Hex now (of database) with
  | (.ok (), pool) => .ok pool
  | (.error e, _) => .error e

/-- A pool on a new database, which is migrated at a time. -/
def fresh (now : Int) : Pool :=
  match opened now .blank with
  | .ok pool => pool
  | .error _ => of .blank

end TodoServer.Storage.Pool
