import Mathlib.Data.Set.Card
/-!
# Nodes of a ProxySQL cluster

What one instance keeps about a peer: its address and, for each module of the configuration, the
checksum, version and epoch the peer reported last.
-/

namespace MockProxy.Cluster

/-- The members of `checksums_values` -/
inductive Module
  | adminVariables
  | mysqlVariables
  | ldapVariables
  | mysqlQueryRules
  | mysqlServers
  | mysqlUsers
  | proxysqlServers
  | mysqlServersV2
  deriving DecidableEq

/-- The name of a module in `runtime_checksums_values` -/
def Module.name : Module → String
  | .adminVariables => "admin_variables"
  | .mysqlVariables => "mysql_variables"
  | .ldapVariables => "ldap_variables"
  | .mysqlQueryRules => "mysql_query_rules"
  | .mysqlServers => "mysql_servers"
  | .mysqlUsers => "mysql_users"
  | .proxysqlServers => "proxysql_servers"
  | .mysqlServersV2 => "mysql_servers_v2"

/-- `ProxySQL_Checksum_Value_2` -/
structure ChecksumValue2 where
  checksum : String := ""
  version : Nat := 0
  epoch : Nat := 0
  lastUpdated : Nat := 0
  lastChanged : Nat := 0
  diffCheck : Nat := 0
  deriving DecidableEq

/-- `ProxySQL_Node_Entry`, as far as the choice of a peer reads it -/
structure NodeEntry where
  hostname : String
  port : Nat
  -- `NULL` while the host name is not resolved
  ipAddr : Option String
  checksumsValues : Module → ChecksumValue2

end MockProxy.Cluster
