import ClipFeed.Sql.Statement
/-!
The tables of the database. They are made in one transaction, and making them again changes
nothing.
-/

namespace ClipFeed.Sql

def schema : String :=
  "CREATE TABLE IF NOT EXISTS accounts (
    id BIGSERIAL PRIMARY KEY,
    username TEXT NOT NULL UNIQUE,
    created_at TIMESTAMPTZ NOT NULL DEFAULT now()
);

CREATE TABLE IF NOT EXISTS videos (
    id BIGSERIAL PRIMARY KEY,
    author_id BIGINT NOT NULL REFERENCES accounts (id) ON DELETE CASCADE,
    username TEXT NOT NULL,
    title VARCHAR(255) NOT NULL,
    description VARCHAR(255),
    play_url VARCHAR(255) NOT NULL,
    cover_url VARCHAR(255) NOT NULL,
    likes_count BIGINT NOT NULL DEFAULT 0 CHECK (likes_count >= 0),
    popularity BIGINT NOT NULL DEFAULT 0,
    created_at TIMESTAMPTZ NOT NULL DEFAULT now()
);

CREATE INDEX IF NOT EXISTS videos_created_at_id_idx ON videos (created_at DESC, id DESC);
CREATE INDEX IF NOT EXISTS videos_likes_count_id_idx ON videos (likes_count DESC, id DESC);
CREATE INDEX IF NOT EXISTS videos_author_created_at_idx ON videos (author_id, created_at DESC, id DESC);

CREATE TABLE IF NOT EXISTS likes (
    id BIGSERIAL PRIMARY KEY,
    video_id BIGINT NOT NULL REFERENCES videos (id) ON DELETE CASCADE,
    account_id BIGINT NOT NULL REFERENCES accounts (id) ON DELETE CASCADE,
    created_at TIMESTAMPTZ NOT NULL DEFAULT now(),
    CONSTRAINT likes_video_account_key UNIQUE (video_id, account_id)
);

CREATE INDEX IF NOT EXISTS likes_account_idx ON likes (account_id, video_id);

CREATE TABLE IF NOT EXISTS follows (
    id BIGSERIAL PRIMARY KEY,
    follower_id BIGINT NOT NULL REFERENCES accounts (id) ON DELETE CASCADE,
    vlogger_id BIGINT NOT NULL REFERENCES accounts (id) ON DELETE CASCADE,
    created_at TIMESTAMPTZ NOT NULL DEFAULT now(),
    CONSTRAINT follows_follower_vlogger_key UNIQUE (follower_id, vlogger_id)
);
"

inductive MigrationFailure where
  | around (failure : Failure)
  | within (version : Nat) (failure : Failure)
  deriving DecidableEq, Repr

def MigrationFailure.message : MigrationFailure → String
  | .around failure => "while executing migrations: " ++ failure.message
  | .within version failure =>
    "while executing migration " ++ toString version ++ ": " ++ failure.message

/-- Makes the tables. What fails before the commit is rolled back. -/
def migrate : Session (Except MigrationFailure Unit) := do
  match ← Session.send .begin with
  | .error failure => return .error (.around failure)
  | .ok _ =>
    match ← Session.send (.script schema) with
    | .error failure =>
      let _ ← Session.send .rollback
      return .error (.within 1 failure)
    | .ok _ =>
      match ← Session.send .commit with
      | .ok _ => return .ok ()
      | .error failure =>
        let _ ← Session.send .rollback
        return .error (.around failure)

end ClipFeed.Sql
