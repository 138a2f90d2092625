/-!
# Host lists

A host list is written as one text with commas between the hosts. `parseHosts` takes such a text
apart at every comma and keeps what stands between them as it is, empty hosts and blanks included,
so the empty text is the list of one empty host. `joinHosts` puts a list together again.
-/

set_option autoImplicit false

namespace HostRoster

/-- The key of a configuration resource that holds the host list. -/
def hostsKey : String := "nginx-hosts"

/-- The pieces of a text between its commas. -/
def splitAtCommas : List Char → List (List Char)
  | [] => [[]]
  | c :: text =>
    if c = ',' then [] :: splitAtCommas text
    else match splitAtCommas text with
      | [] => [[c]]
      | piece :: pieces => (c :: piece) :: pieces

/-- The hosts of a written host list. -/
def parseHosts (raw : String) : List String :=
  (splitAtCommas raw.toList).map String.ofList

/-- The hosts with commas between them. -/
def joinHosts (hosts : List String) : String :=
  ",".intercalate hosts

end HostRoster
