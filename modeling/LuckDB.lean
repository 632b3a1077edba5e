import LuckDB.Sdk.FieldService
import LuckDB.Sdk.Equiv.FieldService
import LuckDB.Sdk.AuthService
import LuckDB.Sdk.Equiv.AuthService
import LuckDB.Dice.RecordService
import LuckDB.Dice.Equiv.RecordService
import LuckDB.ShareDB.Service
import LuckDB.ShareDB.Equiv.Basic
import LuckDB.ShareDB.Equiv.Listeners
import LuckDB.ShareDB.Equiv.Interleaving
import LuckDB.ShareDB.Json0
import LuckDB.ShareDB.Equiv.FieldUpdate
import LuckDB.Server.CacheProvider
import LuckDB.Server.Transaction
import LuckDB.Server.CachedFieldRepository
import LuckDB.Server.Equiv.CachedFieldRepository
import LuckDB.Server.Equiv.FieldLists
import LuckDB.Server.CachedRecordRepository
import LuckDB.Server.Equiv.CachedRecordRepository
import LuckDB.Server.Equiv.RecordLookups
import LuckDB.Server.Equiv.PastAnswers
