namespace SchemaScaffold.Template.Shipped.Build

def gradle : List String := [
  "plugins ⟦",
  "    id 'java'",
  "    id 'org.springframework.boot' version '⟦⟦ project.frameworkVersion ⟧⟧'",
  "    id 'io.spring.dependency-management' version '1.1.4'",
  "⟧",
  "",
  "group = '⟦⟦ packageName ⟧⟧'",
  "version = '0.0.1-SNAPSHOT'",
  "",
  "java ⟦",
  "    sourceCompatibility = '⟦⟦ project.javaVersion ⟧⟧'",
  "⟧",
  "",
  "repositories ⟦",
  "    mavenCentral()",
  "⟧",
  "",
  "dependencies ⟦",
  "    implementation 'org.springframework.boot:spring-boot-starter-web'",
  "⟦%- if config.ormFramework == \"jpa\" %⟧",
  "    implementation 'org.springframework.boot:spring-boot-starter-data-jpa'",
  "⟦%- elif config.ormFramework == \"mybatis-plus\" %⟧",
  "    implementation 'com.baomidou:mybatis-plus-spring-boot3-starter:3.5.5'",
  "⟦%- else %⟧",
  "    implementation 'org.mybatis.spring.boot:mybatis-spring-boot-starter:3.0.3'",
  "⟦%- endif %⟧",
  "⟦%- if config.databaseType == \"postgresql\" %⟧",
  "    runtimeOnly 'org.postgresql:postgresql'",
  "⟦%- else %⟧",
  "    runtimeOnly 'com.mysql:mysql-connector-j'",
  "⟦%- endif %⟧",
  "⟦%- if config.useValidation %⟧",
  "    implementation 'org.springframework.boot:spring-boot-starter-validation'",
  "⟦%- endif %⟧",
  "⟦%- if config.useCache %⟧",
  "    implementation 'org.springframework.boot:spring-boot-starter-data-redis'",
  "⟦%- endif %⟧",
  "⟦%- if config.useApiDocs %⟧",
  "    implementation 'org.springdoc:springdoc-openapi-starter-webmvc-ui:2.3.0'",
  "⟦%- endif %⟧",
  "⟦%- if config.useLombok %⟧",
  "    compileOnly 'org.projectlombok:lombok'",
  "    annotationProcessor 'org.projectlombok:lombok'",
  "⟦%- endif %⟧",
  "    testImplementation 'org.springframework.boot:spring-boot-starter-test'",
  "⟧",
  "",
  "tasks.named('test') ⟦",
  "    useJUnitPlatform()",
  "⟧",
  ""]

def maven : List String := [
  "<?xml version=\"1.0\" encoding=\"UTF-8\"?>",
  "<project xmlns=\"http://maven.apache.org/POM/4.0.0\"",
  "         xmlns:xsi=\"http://www.w3.org/2001/XMLSchema-instance\"",
  "         xsi:schemaLocation=\"http://maven.apache.org/POM/4.0.0 https://maven.apache.org/xsd/maven-4.0.0.xsd\">",
  "    <modelVersion>4.0.0</modelVersion>",
  "",
  "    <parent>",
  "        <groupId>org.springframework.boot</groupId>",
  "        <artifactId>spring-boot-starter-parent</artifactId>",
  "        <version>⟦⟦ project.frameworkVersion ⟧⟧</version>",
  "        <relativePath/>",
  "    </parent>",
  "",
  "    <groupId>⟦⟦ packageName ⟧⟧</groupId>",
  "    <artifactId>⟦⟦ projectName ⟧⟧</artifactId>",
  "    <version>0.0.1-SNAPSHOT</version>",
  "",
  "    <properties>",
  "        <java.version>⟦⟦ project.javaVersion ⟧⟧</java.version>",
  "    </properties>",
  "",
  "    <dependencies>",
  "        <dependency>",
  "            <groupId>org.springframework.boot</groupId>",
  "            <artifactId>spring-boot-starter-web</artifactId>",
  "        </dependency>",
  "⟦%- if config.ormFramework == \"jpa\" %⟧",
  "        <dependency>",
  "            <groupId>org.springframework.boot</groupId>",
  "            <artifactId>spring-boot-starter-data-jpa</artifactId>",
  "        </dependency>",
  "⟦%- elif config.ormFramework == \"mybatis-plus\" %⟧",
  "        <dependency>",
  "            <groupId>com.baomidou</groupId>",
  "            <artifactId>mybatis-plus-spring-boot3-starter</artifactId>",
  "            <version>3.5.5</version>",
  "        </dependency>",
  "⟦%- else %⟧",
  "        <dependency>",
  "            <groupId>org.mybatis.spring.boot</groupId>",
  "            <artifactId>mybatis-spring-boot-starter</artifactId>",
  "            <version>3.0.3</version>",
  "        </dependency>",
  "⟦%- endif %⟧",
  "⟦%- if config.databaseType == \"postgresql\" %⟧",
  "        <dependency>",
  "            <groupId>org.postgresql</groupId>",
  "            <artifactId>postgresql</artifactId>",
  "            <scope>runtime</scope>",
  "        </dependency>",
  "⟦%- else %⟧",
  "        <dependency>",
  "            <groupId>com.mysql</groupId>",
  "            <artifactId>mysql-connector-j</artifactId>",
  "            <scope>runtime</scope>",
  "        </dependency>",
  "⟦%- endif %⟧",
  "⟦%- if config.useValidation %⟧",
  "        <dependency>",
  "            <groupId>org.springframework.boot</groupId>",
  "            <artifactId>spring-boot-starter-validation</artifactId>",
  "        </dependency>",
  "⟦%- endif %⟧",
  "⟦%- if config.useCache %⟧",
  "        <dependency>",
  "            <groupId>org.springframework.boot</groupId>",
  "            <artifactId>spring-boot-starter-data-redis</artifactId>",
  "        </dependency>",
  "⟦%- endif %⟧",
  "⟦%- if config.useApiDocs %⟧",
  "        <dependency>",
  "            <groupId>org.springdoc</groupId>",
  "            <artifactId>springdoc-openapi-starter-webmvc-ui</artifactId>",
  "            <version>2.3.0</version>",
  "        </dependency>",
  "⟦%- endif %⟧",
  "⟦%- if config.useLombok %⟧",
  "        <dependency>",
  "            <groupId>org.projectlombok</groupId>",
  "            <artifactId>lombok</artifactId>",
  "            <optional>true</optional>",
  "        </dependency>",
  "⟦%- endif %⟧",
  "        <dependency>",
  "            <groupId>org.springframework.boot</groupId>",
  "            <artifactId>spring-boot-starter-test</artifactId>",
  "            <scope>test</scope>",
  "        </dependency>",
  "    </dependencies>",
  "",
  "    <build>",
  "        <plugins>",
  "            <plugin>",
  "                <groupId>org.springframework.boot</groupId>",
  "                <artifactId>spring-boot-maven-plugin</artifactId>",
  "            </plugin>",
  "        </plugins>",
  "    </build>",
  "</project>",
  ""]

end SchemaScaffold.Template.Shipped.Build
