import GameBox.Chunk.Kind

/-!
# Engine classes

A file names the engine class of what it holds.  The class puts the file into a category, and the
category says which header chunks are known.

* `Category`, `Category.chunks`, `Category.chunkKind?`: the categories and their chunks.
* `Class`: a class with its id, name and category.
-/

namespace GameBox

/-- A coarse kind of files. -/
inductive Category where
  | other
  | challenge
  | replay
  | collector
  | collection
  | profile
  | skin
  | plug
  | hms
  deriving DecidableEq, Repr, Inhabited

namespace Category

/-- All categories. -/
def all : List Category :=
  [other, challenge, replay, collector, collection, profile, skin, plug, hms]

/-- The name of a category. -/
def name : Category → String
  | other => "Other"
  | challenge => "Challenge"
  | replay => "Replay"
  | collector => "Collector"
  | collection => "Collection"
  | profile => "Profile"
  | skin => "Skin"
  | plug => "Plug"
  | hms => "Hms"

/-- The known chunks of a category: ids and kinds. -/
def chunks : Category → List (UInt32 × ChunkKind)
  | other =>
    [(0x0311D000, .folderDep)]
  | challenge =>
    [(0x03043002, .tmDesc),
     (0x24003002, .tmDesc),
     (0x03043003, .common),
     (0x24003003, .common),
     (0x03043004, .version),
     (0x24003004, .version),
     (0x03043005, .community),
     (0x24003005, .community),
     (0x03043007, .thumbnail),
     (0x24003007, .thumbnail),
     (0x03043008, .author),
     (0x24003008, .author),
     (0x21080001, .vskDesc)]
  | replay =>
    [(0x03093000, .replayVersion),
     (0x2403F000, .replayVersion),
     (0x03093001, .community),
     (0x2403F001, .community),
     (0x03093002, .author),
     (0x2403F002, .author)]
  | collector =>
    [(0x2E001003, .collectorDesc),
     (0x2E001004, .icon),
     (0x2E001005, .unknown),
     (0x2E001006, .time),
     (0x03059002, .skin),
     (0x2E002000, .itemType),
     (0x2E002001, .version),
     (0x090F4000, .gameSkin),
     (0x03038000, .mood)]
  | collection =>
    [(0x03033000, .oldDesc),
     (0x03033001, .collectionDesc),
     (0x03033002, .folders),
     (0x03033003, .menuIcons)]
  | profile =>
    [(0x0308C000, .profile)]
  | skin =>
    [(0x090F4000, .gameSkin),
     (0x03059002, .skin)]
  | plug =>
    [(0x09005000, .version),
     (0x090BB000, .version),
     (0x09145000, .version)]
  | hms =>
    [(0x06003000, .version),
     (0x0600F000, .version)]

/-- The kind of the chunk with this id in files of a category, if it is known there. -/
def chunkKind? (category : Category) (id : UInt32) : Option ChunkKind :=
  (category.chunks.find? fun known => known.1 = id).map Prod.snd

theorem mem_all (category : Category) : category ∈ all := by
  cases category <;> decide

end Category

/-- An engine class. -/
structure Class where
  id : UInt32
  name : String
  category : Category
  deriving DecidableEq, Repr

end GameBox
