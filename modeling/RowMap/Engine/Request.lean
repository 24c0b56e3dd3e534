import RowMap.Engine.Basic

/-!
# Requests

Every operation of the engine as data, with the type of its response. A run of an engine is a list
of requests that are performed one after the other on one session.
-/

namespace RowMap

inductive Request where
  | create (t : RecordType) (r : Record t) (skip : Bool)
  | createAll (t : RecordType) (rs : List (Record t)) (skip : Bool)
  | save (t : RecordType) (r : Record t) (skip : Bool)
  | update (t : RecordType) (id : Value) (r : Record t) (skip : Bool)
  | updateWhere (t : RecordType) (assignments condition : String) (params : List Value)
  | destroy (t : RecordType) (id : Value)
  | destroyWhere (t : RecordType) (condition : String) (params : List Value)
  | queryByKey (t : RecordType) (id : Value)
  | queryFirst (t : RecordType) (condition : String) (params : List Value)
  | query (t : RecordType) (condition : String) (params : List Value)
  | countAll (t : RecordType)
  | count (t : RecordType) (condition : String) (params : List Value)
  | fetch (dataset : Dataset)
  | fetchAs (t : RecordType) (dataset : Dataset)
  | execute (sql : String)
  /-- Reads the mapper, without the store. -/
  | readMapper

abbrev Request.Response : Request → Type
  | .create t _ _ => Outcome (Record t)
  | .createAll t _ _ => Outcome (List (Record t))
  | .save t _ _ => Outcome (Record t)
  | .update .. => Outcome Nat
  | .updateWhere .. => Nat
  | .destroy .. => Nat
  | .destroyWhere .. => Nat
  | .queryByKey t _ => Option (Record t)
  | .queryFirst t _ _ => Option (Record t)
  | .query t _ _ => List (Record t)
  | .countAll _ => Int64
  | .count .. => Int64
  | .fetch _ => List AttributeMap
  | .fetchAs t _ => List (Record t)
  | .execute _ => Nat
  | .readMapper => Mapper

namespace Engine

variable (e : Engine)

def perform : (q : Request) → Action q.Response
  | .create _ r skip => e.create r skip
  | .createAll _ rs skip => e.createAll rs skip
  | .save _ r skip => e.save r skip
  | .update _ id r skip => e.update id r skip
  | .updateWhere t assignments condition params => e.updateWhere t assignments condition params
  | .destroy t id => e.destroy t id
  | .destroyWhere t condition params => e.destroyWhere t (.raw condition params)
  | .queryByKey t id => e.queryByKey t id
  | .queryFirst t condition params => e.queryFirst t condition params
  | .query t condition params => e.query t condition params
  | .countAll t => e.countAll t
  | .count t condition params => e.count t condition params
  | .fetch dataset => e.fetch dataset
  | .fetchAs t dataset => e.fetchAs t dataset
  | .execute sql => execute sql
  | .readMapper => return e.mapper

/-- Performs one request on a session. -/
def step {σ : Type} (store : Store σ) (q : Request) (s : Session σ) :
    Run σ (Except Error q.Response) :=
  (e.perform q).run.run store s

end Engine

end RowMap
