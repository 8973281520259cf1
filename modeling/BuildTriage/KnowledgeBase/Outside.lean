import BuildTriage.KnowledgeBase.Basic

/-!
# What happens to a knowledge base from outside

The store behind a knowledge base may be cut off for a while, a stored text may be
overwritten by somebody else, and a knowledge base may be dropped and opened again, with
what its store has kept.
-/

namespace BuildTriage.KnowledgeBase

/-- Cuts the server off, or connects it again. -/
def setOffline (k : KnowledgeBase) (down : Bool) : KnowledgeBase :=
  match k.backing with
  | .hash b => { k with backing := .hash { b with store := { b.store with link := ⟨[], down⟩ } } }
  | _ => k

/-- Overwrites the stored text of an id; causes in a file have none of their own. -/
def overwrite? (k : KnowledgeBase) (id text : String) : Option KnowledgeBase :=
  match k.backing with
  | .file _ => none
  | .table b =>
    let rows := b.store.rows.map fun r => if r.id = id then { r with text := text } else r
    some { k with backing := .table { b with store := { b.store with rows := rows } } }
  | .hash b =>
    let texts := CauseHash.setField id text b.store.texts
    some { k with backing := .hash { b with store := { b.store with texts := texts } } }

/-- Drops a knowledge base and opens it again, with a new cache. What is in memory only is
lost, and so are the tables if they are not kept in a file; the server is asked for a
connection if it is reached over the wire. -/
def reopen (k : KnowledgeBase) (tablesKept wired : Bool) :
    Except KnowledgeBaseError KnowledgeBase := do
  let backing ← match k.backing with
    | .file ⟨_, none⟩ => pure (.file .inMemory)
    | .file ⟨_, some disk⟩ => Backing.file <$> CauseFile.openDisk disk
    | .table b => pure (.table (if tablesKept then b else { b with store := .empty }))
    | .hash b =>
      if wired && b.store.link.down then throw (.connection .redis) else pure (.hash b)
  return ⟨backing, k.cache.map fun _ => .cold⟩

end BuildTriage.KnowledgeBase
