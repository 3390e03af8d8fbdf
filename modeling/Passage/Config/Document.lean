import Passage.Config.LevelEntry
import Passage.Yaml.Reading

/- Configuration documents:

     secret: <base64 of 32 bytes>
     default:
       - { duration: 1m, type: none, countdown: 3 }
     frontend:
       shop:
         - { duration: 5m, type: pow }
     listen: tcp://127.0.0.1:9000

   `default` must be there, and so must `duration` and `type` in each entry.
   No other keys may be, and none twice, except that of two sections of one
   name the later counts. -/
namespace Passage

structure Document where
  secret : Option String
  /-- The entries for all names without a section. -/
  defaults : List LevelEntry
  /-- The named sections as they are written; of two with one name the later counts. -/
  sections : List (String × List LevelEntry)
  listen : Option String
  deriving DecidableEq, Repr

namespace Document

open Yaml Reading

def readEntry (n : Node) : Reading LevelEntry := do
  let es ← fields ["duration", "type", "countdown"] n
  return {
    duration := ← required "duration" text es
    policy := ← required "type" text es
    countdown := ← withDefault "countdown" none (optional byte) es }

def readSections (n : Node) : Reading (List (String × List LevelEntry)) := do
  (← entries n).mapM fun (name, n) => return (name, ← list readEntry n)

def read (n : Node) : Reading Document := do
  let es ← fields ["secret", "default", "frontend", "listen"] n
  return {
    secret := ← withDefault "secret" none (optional text) es
    defaults := ← required "default" (list readEntry) es
    sections := ← withDefault "frontend" [] readSections es
    listen := ← withDefault "listen" none (optional text) es }

/-- The document that a text spells, if it does. -/
def ofText? (s : String) : Option Document := decode? read s.toList

end Document
end Passage
