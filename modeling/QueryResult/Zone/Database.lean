import QueryResult.Zone.Americas
import QueryResult.Zone.Elsewhere
import QueryResult.Zone.Europe

/-!
# Zone databases

The zones that a session may name are those of a database, in which no two go by the same name.
Names are compared letter for letter. The tz database has some six hundred zones. The tables of
twenty of them are part of the library, a selection of the ways in which clocks are changed; all
that a session does is defined for any database.
-/

namespace QueryResult.Zone

/-- The zone `GMT`. -/
def gmt : Zone := .ofTable "GMT" 0 []

/-- The zone `EST`. -/
def est : Zone := .ofTable "EST" (-18000) []

/-- The zone `Etc/GMT+12`. -/
def gmtPlus12 : Zone := .ofTable "Etc/GMT+12" (-43200) []

/-- The zone `Etc/GMT-14`. -/
def gmtMinus14 : Zone := .ofTable "Etc/GMT-14" 50400 []

/-- The zones whose tables are part of the library. -/
def tabulated : List Zone :=
  [utc, gmt, est, gmtPlus12, gmtMinus14, newYork, losAngeles, usPacific, stJohns, saoPaulo,
   london, dublin, amsterdam, tokyo, kolkata, kathmandu, lordHowe, apia, kwajalein, monrovia]

/-- Zones of different names. -/
structure Database where
  zones : List Zone
  distinct : (zones.map Zone.name).Nodup

namespace Database

/-- The zone that goes by a name. -/
def find? (db : Database) (name : String) : Option Zone :=
  db.zones.find? fun z => z.name == name

/-- The database of the zones whose tables are part of the library. -/
def tabulated : Database where
  zones := Zone.tabulated
  distinct := by decide +kernel

end Database

/-- The zone that goes by a name among those whose tables are part of the library. -/
def find? (name : String) : Option Zone :=
  Database.tabulated.find? name

end QueryResult.Zone
