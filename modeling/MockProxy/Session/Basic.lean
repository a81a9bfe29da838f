import MockProxy.DataStream.Basic

/-!
# Session states and commands

The enumerations `session_status` and `enum_mysql_command`, the command byte of a packet, and the
comparisons of texts without regard to case.
-/

namespace MockProxy.Session

open DataStream

/-- `strcasecmp(a, b) == 0` -/
def sameText (a b : String) : Bool := a.toList.map Char.toLower = b.toList.map Char.toLower

/-- `strcasestr(text, part) != NULL` -/
def mentions (text part : String) : Bool :=
  (text.toList.map Char.toLower).tails.any (part.toList.map Char.toLower).isPrefixOf

/-- `session_status` -/
inductive Status where
  | connectingClient
  | connectingServer
  | ldapAuthClient
  | pingingServer
  | waitingClientData
  | waitingServerData
  | processingQuery
  | changingSchema
  | changingCharset
  | settingCharset
  | changingAutocommit
  | changingUserClient
  | changingUserServer
  | resettingConnection
  | settingInitConnect
  | settingLdapUserVariable
  | settingIsolationLevel
  | settingTransactionRead
  | settingSessionTrackGtids
  | settingMultiStmt
  | fastForward
  | processingStmtPrepare
  | processingStmtExecute
  | settingVariable
  | settingMultipleVariables
  | settingSetNames
  | showWarnings
  | settingNextIsolationLevel
  | settingNextTransactionRead
  | none
  deriving DecidableEq, Repr

/-- `enum_mysql_command`, in the order of its codes; code 29 is `daemon`. -/
inductive Command where
  | sleep
  | quit
  | initDb
  | query
  | fieldList
  | createDb
  | dropDb
  | refresh
  | shutdown
  | statistics
  | processInfo
  | connect
  | processKill
  | debug
  | ping
  | time
  | delayedInsert
  | changeUser
  | binlogDump
  | tableDump
  | connectOut
  | registerSlave
  | stmtPrepare
  | stmtExecute
  | stmtSendLongData
  | stmtClose
  | stmtReset
  | setOption
  | stmtFetch
  | daemon
  | binlogDumpGtid
  | resetConnection
  deriving DecidableEq, Repr

def commands : List Command :=
  [.sleep, .quit, .initDb, .query, .fieldList, .createDb, .dropDb, .refresh, .shutdown, .statistics,
    .processInfo, .connect, .processKill, .debug, .ping, .time, .delayedInsert, .changeUser,
    .binlogDump, .tableDump, .connectOut, .registerSlave, .stmtPrepare, .stmtExecute,
    .stmtSendLongData, .stmtClose, .stmtReset, .setOption, .stmtFetch, .daemon, .binlogDumpGtid,
    .resetConnection]

/-- `(enum_mysql_command)c`; bytes from 32 on name no command. -/
def Command.ofByte (c : Byte) : Option Command := commands[c.toNat]?

end MockProxy.Session
